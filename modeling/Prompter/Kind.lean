namespace Prompter

inductive Kind where
  | number
  | integer
  | string
  | selector
  | choice
deriving DecidableEq

namespace Kind

def all : List Kind := [number, integer, string, selector, choice]

theorem mem_all (k : Kind) : k ∈ all := by cases k <;> decide

def keyword : Kind → String
  | number => "num"
  | integer => "int"
  | string => "str"
  | selector => "@"
  | choice => "enum"

def ofKeyword? (word : String) : Option Kind := all.find? (·.keyword == word)

theorem ofKeyword?_keyword (k : Kind) : ofKeyword? k.keyword = some k := by cases k <;> decide

theorem keyword_of_ofKeyword? {word : String} {k : Kind} (h : ofKeyword? word = some k) :
    k.keyword = word := by simpa using List.find?_some h

def label : Kind → String
  | number => "number"
  | integer => "integer"
  | string => "string"
  | selector => "id"
  | choice => "enumeration value"

def symbol : Kind → String
  | number => "NUMBER"
  | integer => "INTEGER"
  | string => "STRING"
  | selector => "SELECTOR"
  | choice => "ENUMVALUE"

def numeric (k : Kind) : Bool := k = number ∨ k = integer

end Kind

end Prompter
