import FunctionIndex.Shell.Awk.Value
import Std.Data.HashMap

/-!
# Tables

A table gives values to keys.  A key is a text, but it may be used as a whole number too.  The
order in which the keys of a table come up depends on its history: keys stand in lists, numbers by
their last bits and texts by a hash, the key that was asked for last at the front of its list.
Texts are put into lists only when the first of them is asked for.
-/

namespace FunctionIndex

namespace Shell

namespace Awk

/-- A key. -/
inductive Key where
  | number (n : Int)
  | text (bs : Bytes)

/-- The text of a key. -/
def Key.octets : Key → Bytes
  | number n => decimal n
  | text bs => bs

/-- A table. -/
structure Table where
  /-- The values of keys. -/
  values : Std.HashMap Bytes Value := {}
  /-- Number of lists. -/
  width : Nat := 64
  /-- The numbers from one on that are its keys, before anything else is asked for. -/
  row : Option Nat := none
  /-- Keys that have been used as numbers. -/
  numbers : Array (List Int) := Array.replicate 64 []
  /-- Whether a text has been asked for, so that all keys are kept as texts. -/
  asTexts : Bool := false
  /-- All keys as texts, in that case. -/
  texts : Array (List Bytes) := #[]

namespace Table

/-- The empty table. -/
def empty : Table := {}

/-- Number of keys. -/
def size (t : Table) : Nat := t.values.size

/-- Whether there is a key. -/
def contains (t : Table) (key : Key) : Bool := t.values.contains key.octets

/-- The value of a key. -/
def value (t : Table) (key : Key) : Value := t.values.getD key.octets .unset

/-- The number that decides on the list of a text. -/
def hash (bs : Bytes) : Nat :=
  (bs.foldl (fun (h : UInt32) b => (h ^^^ b.toUInt32) * 16777619) 2166136261).toNat

/-- How many keys a list holds on the average before there are more lists. -/
def listLength : Nat := 12

/-- The list of a number. -/
def numberSlot (width : Nat) (n : Int) : Nat := (n % (width : Int)).toNat

/-- The list of a text. -/
def textSlot (width : Nat) (bs : Bytes) : Nat := hash bs % width

/-- Lists with a key put at the front of one of them. -/
def pushFront {α : Type} (lists : Array (List α)) (slot : Nat) (a : α) : Array (List α) :=
  lists.modify slot (a :: ·)

/-- Lists with a key taken out of one of them. -/
def drop {α : Type} [BEq α] (lists : Array (List α)) (slot : Nat) (a : α) : Array (List α) :=
  lists.modify slot (·.erase a)

/-- Lists with a key of one of them moved to its front. -/
def moveFront {α : Type} [BEq α] (lists : Array (List α)) (slot : Nat) (a : α) : Array (List α) :=
  pushFront (drop lists slot a) slot a

/-- Keys put into lists, each behind those before it. -/
def distribute {α : Type} (width : Nat) (slot : α → Nat) (keys : List α) : Array (List α) :=
  (keys.foldl (fun ls a => pushFront ls (slot a) a) (Array.replicate width [])).map List.reverse

/-- The number of lists for a number of keys. -/
def widthFor (size : Nat) : Nat → Nat → Nat
  | 0, width => width
  | fuel + 1, width => if size > width * listLength then widthFor size fuel (2 * width) else width

/-- The table with its keys in lists. -/
def settled (t : Table) : Table :=
  match t.row with
  | none => t
  | some n =>
    let width := widthFor n 40 64
    let keys := ((List.range n).map fun i => ((i + 1 : Nat) : Int)).reverse
    { t with row := none, width, numbers := distribute width (numberSlot width) keys }

/-- The table with all its keys as texts. -/
def withTexts (t : Table) : Table :=
  let t := t.settled
  if t.asTexts then t
  else
    let keys := (t.numbers.toList.flatten.map decimal).reverse
    { t with asTexts := true, texts := distribute t.width (textSlot t.width) keys }

/-- The table with twice as many lists. -/
def grown (t : Table) : Table :=
  let width := 2 * t.width
  { t with width
           numbers := distribute width (numberSlot width) t.numbers.toList.flatten
           texts := if t.asTexts then distribute width (textSlot width) t.texts.toList.flatten
             else t.texts }

/-- The table with room for a new key, which has no value yet. -/
def widened (t : Table) (key : Bytes) : Table :=
  let t := { t with values := t.values.insert key .unset }
  if t.size > t.width * listLength then t.grown else t

/-- Looks a text up, which moves it to the front; a new one may be added. -/
def lookText (t : Table) (create : Bool) (key : Bytes) : Table :=
  let t := t.withTexts
  if t.values.contains key then
    let slot := textSlot t.width key
    { t with texts := moveFront t.texts slot key }
  else if create then
    let t := t.widened key
    let slot := textSlot t.width key
    { t with texts := pushFront t.texts slot key }
  else t

/-- Looks a number up among the lists, which moves it to the front; a new one may be added. -/
def lookNumber (t : Table) (create : Bool) (n : Int) : Table :=
  let slot := numberSlot t.width n
  if (t.numbers.getD slot []).contains n then
    { t with numbers := moveFront t.numbers slot n }
  else
    let key := decimal n
    let known := create || t.values.contains key
    let t :=
      if t.asTexts then t.lookText create key
      else if create then t.widened key
      else t
    if known then
      let slot := numberSlot t.width n
      { t with numbers := pushFront t.numbers slot n }
    else t

/-- Looks a key up, which changes the order of the keys; a new one may be added. -/
def look (t : Table) (create : Bool) (key : Key) : Table :=
  match key with
  | .text bs => if t.size = 0 && !create then t else t.lookText create bs
  | .number n =>
    match t.row with
    | some k =>
      if 1 ≤ n && n ≤ k then t
      else if create then t.settled.lookNumber true n
      else t
    | none => if t.size = 0 && !create then t else t.lookNumber create n

/-- Sets the value of a key. -/
def set (t : Table) (key : Key) (v : Value) : Table :=
  let t := t.look true key
  { t with values := t.values.insert key.octets v }

/-- Changes the value of a key that has been looked up before. -/
def replace (t : Table) (key : Key) (v : Value) : Table :=
  if t.contains key then { t with values := t.values.insert key.octets v } else t.set key v

/-- The table without a key; one that has no keys left starts anew. -/
def erase (t : Table) (key : Key) : Table :=
  let t := t.look false key
  if !t.contains key then t
  else
    let bs := key.octets
    let t := t.settled
    let number? : Option Int := match key with
      | .number n => some n
      | .text bs => (integer? bs).filter fun n => decimal n == bs
    let t := match number? with
      | some n =>
        let slot := numberSlot t.width n
        { t with numbers := drop t.numbers slot n }
      | none => t
    let slot := textSlot t.width bs
    let t := { t with values := t.values.erase bs, texts := drop t.texts slot bs }
    if t.size = 0 then .empty else t

/-- A table of values with the keys one, two and so on. -/
def ofList (vs : List Value) : Table :=
  if vs.isEmpty then .empty
  else
    { row := some vs.length
      values := vs.zipIdx.foldl (fun m (v, i) => m.insert (decimal (i + 1)) v) {} }

/-- The table with its keys ready to be counted out. -/
def listed (t : Table) : Table := if t.size = 0 then t else t.withTexts

/-- The keys in the order in which they come up. -/
def keys (t : Table) : List Bytes := t.listed.texts.toList.flatten

end Table

end Awk

end Shell

end FunctionIndex
