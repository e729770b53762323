/-
# JSON values

Task records carry JSON, and reports are written in it. An object keeps its
members as a list. A document may repeat a name or give the names in any order;
`Json.normal` is the form in which each name occurs once, with its last value, and
the names increase.
-/

import TaskQuery.Decimal.Shortest

namespace TaskQuery

/-- A JSON number: an integer of 64 bits, or the shortest decimal of a number in
double precision. -/
inductive JsonNumber
  | integer (value : Int)
  | decimal (value : Decimal)
  deriving DecidableEq, Repr

/-- A number as a document writes it. -/
def JsonNumber.text : JsonNumber → String
  | integer value => toString value
  | decimal value => value.text

/-- A JSON value. -/
inductive Json
  | null
  | bool (value : Bool)
  | number (value : JsonNumber)
  | string (value : String)
  | array (items : List Json)
  | object (members : List (String × Json))
  deriving Repr

namespace Json

/-- The value of a member of an object. -/
def get? (name : String) : Json → Option Json
  | object members => members.lookup name
  | _ => none

/-- Puts a member into a list whose names increase, in place of one of the same
name. -/
def insertMember (name : String) (value : Json) :
    List (String × Json) → List (String × Json)
  | [] => [(name, value)]
  | (other, old) :: rest =>
      if name < other then (name, value) :: (other, old) :: rest
      else if name = other then (name, value) :: rest
      else (other, old) :: insertMember name value rest

/-- Members with each name once, with its last value, and the names increasing. -/
def sortMembers (members : List (String × Json)) : List (String × Json) :=
  members.foldl (fun sorted (name, value) => insertMember name value sorted) []

mutual

/-- The value with every object inside it in normal form. -/
def normal : Json → Json
  | null => null
  | bool value => bool value
  | number value => number value
  | string value => string value
  | array items => array (normalItems items)
  | object members => object (sortMembers (normalMembers members))

/-- The items of an array in normal form. -/
def normalItems : List Json → List Json
  | [] => []
  | item :: rest => item.normal :: normalItems rest

/-- The members of an object with their values in normal form. -/
def normalMembers : List (String × Json) → List (String × Json)
  | [] => []
  | (name, value) :: rest => (name, value.normal) :: normalMembers rest

end

/-- An array of texts. -/
def ofTexts (texts : List String) : Json :=
  array (texts.map string)

/-- A natural number. -/
def ofNat (n : Nat) : Json :=
  number (.integer n)

end Json

end TaskQuery
