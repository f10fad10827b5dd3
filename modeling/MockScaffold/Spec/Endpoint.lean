import MockScaffold.Sample.Basic

/-!
# Endpoints

A specification is a list of endpoints.  An endpoint carries samples of what it is sent and what it
answers; nothing is declared about them.  A null request body is no request body.  The method may be
any text, but only five of them are *verbs* for which there can be a mock handler.
-/

namespace MockScaffold

/-- The methods that handlers exist for. -/
inductive Verb where
  | get
  | post
  | put
  | patch
  | delete
  deriving DecidableEq, Repr

namespace Verb

def all : List Verb := [.get, .post, .put, .patch, .delete]

/-- The method as it stands in a request. -/
def method : Verb → String
  | .get => "GET"
  | .post => "POST"
  | .put => "PUT"
  | .patch => "PATCH"
  | .delete => "DELETE"

/-- The function that makes a handler for the method. -/
def word : Verb → String
  | .get => "get"
  | .post => "post"
  | .put => "put"
  | .patch => "patch"
  | .delete => "delete"

/-- Whether request bodies of the method get a type of their own. -/
def takesBody : Verb → Bool
  | .post | .put | .patch => true
  | .get | .delete => false

/-- The verb of a method. -/
def ofMethod? (method : String) : Option Verb := all.find? fun v => v.method == method

end Verb

/-- One endpoint of an interface. -/
structure Endpoint where
  /-- In upper case. -/
  method : String
  /-- The path, which may hold placeholders. -/
  path : String
  requestBody : Sample
  response : Sample
  statusCode : Int

namespace Endpoint

def verb? (e : Endpoint) : Option Verb := Verb.ofMethod? e.method

def hasRequestBody (e : Endpoint) : Bool := !e.requestBody.isNull

/-- Whether the method is one whose request bodies get a type. -/
def acceptsBody (e : Endpoint) : Bool := e.verb?.any Verb.takesBody

/-- Whether the endpoint has a request body that gets a type. -/
def hasTypedBody (e : Endpoint) : Bool := e.acceptsBody && e.hasRequestBody

end Endpoint

/-- The whole interface. -/
structure Specification where
  endpoints : List Endpoint

end MockScaffold
