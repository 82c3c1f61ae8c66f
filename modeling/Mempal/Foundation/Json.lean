import Mathlib.Data.List.Basic

set_option autoImplicit false

/-! Parsed values as readers see them. An object lists its entries in the order in which they are iterated. -/

namespace Foundation

inductive Json where
  | null
  | bool (value : Bool)
  | number (text : String)
  | string (text : String)
  | array (items : List Json)
  | object (entries : List (String × Json))

namespace Json

def get (key : String) : Json → Option Json
  | object entries => entries.lookup key
  | _ => none

def asStr : Json → Option String
  | string text => some text
  | _ => none

def asArray : Json → Option (List Json)
  | array items => some items
  | _ => none

def asObject : Json → Option (List (String × Json))
  | object entries => some entries
  | _ => none

def isNull : Json → Bool
  | null => true
  | _ => false

end Json

end Foundation
