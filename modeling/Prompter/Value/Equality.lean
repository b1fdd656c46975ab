import Prompter.Decimal.Nearest
import Prompter.Value.Basic

namespace Prompter.Value

def numbersEqual : Value → Value → Option Bool
  | integer i, integer j => some (i == j)
  | number x, number y => some (x == y)
  | integer i, number x | number x, integer i => some (Decimal.equalsInt x i)
  | _, _ => Option.none

def asNumber : Value → Value
  | boolean b => integer (if b then 1 else 0)
  | v => v

def equalScalars (a b : Value) : Bool :=
  match a.asNumber, b.asNumber with
  | none, none | unset, unset => true
  | string s, string t => s == t
  | bytes c, bytes d | bytes c, byteArray d | byteArray c, bytes d | byteArray c, byteArray d => c == d
  | kind k, kind l => k == l
  | routine r, routine q => r == q
  | v, w => (numbersEqual v w).getD false

def equalOrigins : Option Origin → Option Origin → Bool
  | Option.none, Option.none => true
  | some a, some b => equalScalars a.toValue b.toValue
  | _, _ => false

mutual

def equal : Value → Value → Bool
  | list xs, list ys | tuple xs, tuple ys => equalAll xs ys
  | map es, map fs | map es, view fs | view es, map fs | view es, view fs =>
      es.length == fs.length && equalEntries es fs
  | set xs, set ys | set xs, frozenSet ys | frozenSet xs, set ys | frozenSet xs, frozenSet ys =>
      xs.length == ys.length && equalMembers xs ys
  | argument a, argument b => equalSlot a b
  | command c, command d =>
      let ⟨name, positional, keyword, executor⟩ := c
      name == d.name && equalSlots positional d.positional &&
        keyword.length == d.keyword.length && equalKeyed keyword d.keyword && equal executor d.executor
  | a, b => equalScalars a b

def equalAll : List Value → List Value → Bool
  | [], [] => true
  | x :: xs, y :: ys => equal x y && equalAll xs ys
  | _, _ => false

def equalEntries : List (Value × Value) → List (Value × Value) → Bool
  | [], _ => true
  | (k, v) :: rest, fs => fs.any (fun f => equal k f.1 && equal v f.2) && equalEntries rest fs

def equalMembers : List Value → List Value → Bool
  | [], _ => true
  | x :: xs, ys => ys.any (fun y => equal x y) && equalMembers xs ys

def equalSlot : Slot Value → Slot Value → Bool
  | ⟨name, sort, optional, initial, origin, choices⟩, b =>
      name == b.name && sort == b.kind && optional == b.optional && equal initial b.initial &&
        equalOrigins origin b.origin && choices == b.choices

def equalSlots : List (Slot Value) → List (Slot Value) → Bool
  | [], [] => true
  | a :: rest, b :: others => equalSlot a b && equalSlots rest others
  | _, _ => false

def equalKeyed : List (Slot Value) → List (Slot Value) → Bool
  | [], _ => true
  | a :: rest, others => others.any (fun b => equalSlot a b) && equalKeyed rest others

end

end Prompter.Value
