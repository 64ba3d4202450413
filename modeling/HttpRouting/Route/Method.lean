import HttpRouting.Text.Case

/-! # Request methods

The nine methods a route can be bound to, in their canonical order, and the selector `*` that stands
for all of them. A request's method is compared in upper case.
-/

namespace HttpRouting

/-- A request method. -/
inductive Method where
  | get
  | post
  | put
  | delete
  | head
  | options
  | connect
  | patch
  | trace
deriving DecidableEq, Repr

namespace Method

/-- All methods, in canonical order. -/
def all : List Method :=
  [.get, .post, .put, .delete, .head, .options, .connect, .patch, .trace]

def name : Method → String
  | .get => "GET"
  | .post => "POST"
  | .put => "PUT"
  | .delete => "DELETE"
  | .head => "HEAD"
  | .options => "OPTIONS"
  | .connect => "CONNECT"
  | .patch => "PATCH"
  | .trace => "TRACE"

def ofName? (name : String) : Option Method :=
  all.find? (·.name == name)

/-- The method that a request's method text means, in any letter case. -/
def parse? (text : String) : Option Method :=
  ofName? (Text.upper text)

theorem mem_all (method : Method) : method ∈ all := by
  cases method <;> simp [all]

theorem ofName?_name (method : Method) : ofName? method.name = some method := by
  cases method <;> decide

end Method

/-- What a route may be bound to: one method, or any. -/
inductive Selector where
  | only (method : Method)
  | any
deriving DecidableEq, Repr

namespace Selector

def name : Selector → String
  | .only method => method.name
  | .any => "*"

def ofName? (name : String) : Option Selector :=
  if name = "*" then some .any else (Method.ofName? name).map .only

end Selector

end HttpRouting
