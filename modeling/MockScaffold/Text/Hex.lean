/-!
# Hexadecimal text

Code points and bytes are written in lower-case hexadecimal with a fixed number of places, and
read in either case.
-/

namespace MockScaffold.Text

/-- The `places` low hexadecimal digits of `n`, most significant first. -/
def hex : Nat → Nat → List Char
  | 0, _ => []
  | places + 1, n => hex places (n / 16) ++ [Nat.digitChar (n % 16)]

/-- The value of a hexadecimal digit. -/
def hexDigit? (c : Char) : Option Nat :=
  if c.isDigit then some (c.toNat - 48)
  else if 'a' ≤ c && c ≤ 'f' then some (c.toNat - 87)
  else if 'A' ≤ c && c ≤ 'F' then some (c.toNat - 55)
  else none

/-- The value of a run of hexadecimal digits; `none` if another character is among them. -/
def ofHex? (cs : List Char) : Option Nat :=
  cs.foldlM (fun value c => (hexDigit? c).map (16 * value + ·)) 0

/-- A number is written with as many digits as there are places. -/
theorem length_hex (places n : Nat) : (hex places n).length = places := by
  induction places generalizing n with
  | zero => rfl
  | succ k ih => simp [hex, ih]

/-- A digit counts for less than the base. -/
theorem hexDigit?_lt {c : Char} {d : Nat} (h : hexDigit? c = some d) : d < 16 := by
  unfold hexDigit? at h
  split at h
  · next hdigit =>
      simp only [Char.isDigit, Bool.and_eq_true, decide_eq_true_eq] at hdigit
      have hnat : c.toNat ≤ 57 := hdigit.2
      have hd := Option.some.inj h
      omega
  · split at h
    · next hletter =>
        simp only [Bool.and_eq_true, decide_eq_true_eq] at hletter
        have hnat : c.toNat ≤ 102 := hletter.2
        have hd := Option.some.inj h
        omega
    · split at h
      · next hletter =>
          simp only [Bool.and_eq_true, decide_eq_true_eq] at hletter
          have hnat : c.toNat ≤ 70 := hletter.2
          have hd := Option.some.inj h
          omega
      · cases h

/-- The digits of a number bound it. -/
theorem ofHex?_lt {cs : List Char} {n : Nat} (h : ofHex? cs = some n) :
    n < Nat.pow 16 cs.length := by
  have hfold : ∀ (cs : List Char) (value n : Nat),
      cs.foldlM (fun value c => (hexDigit? c).map (16 * value + ·)) value = some n →
        n < (value + 1) * Nat.pow 16 cs.length := by
    intro cs
    induction cs with
    | nil =>
        intro value n h
        cases h
        simp
    | cons c rest ih =>
        intro value n h
        rw [List.foldlM_cons] at h
        obtain ⟨next, hnext, hrest⟩ := Option.bind_eq_some_iff.mp h
        obtain ⟨d, hd, rfl⟩ := Option.map_eq_some_iff.mp hnext
        have hdigit := hexDigit?_lt hd
        have hpow : Nat.pow 16 (c :: rest).length = 16 * Nat.pow 16 rest.length := Nat.pow_succ'
        calc n < (16 * value + d + 1) * Nat.pow 16 rest.length := ih _ _ hrest
          _ ≤ (value + 1) * 16 * Nat.pow 16 rest.length :=
              Nat.mul_le_mul_right _ (by omega)
          _ = (value + 1) * Nat.pow 16 (c :: rest).length := by rw [hpow, Nat.mul_assoc]
  simpa using hfold cs 0 n h

end MockScaffold.Text
