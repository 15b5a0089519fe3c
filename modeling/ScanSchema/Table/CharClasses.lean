/-!
# Character classes

The automaton does not look at characters but at their classes. A short table gives the classes of
the first code points; every other character is in one catch-all class. Class 0 stands for the end
of input.
-/

namespace ScanSchema

/-- The classes of all characters. -/
structure CharClasses where
  /-- Classes of the code points `0, 1, …`, as far as they are listed. -/
  map : Array UInt8
  /-- Class of every character that `map` does not list. -/
  catchAll : UInt8
  deriving DecidableEq, Repr, Inhabited

namespace CharClasses

/-- The class of the code point `code`. -/
def classOfCode (classes : CharClasses) (code : Nat) : Nat :=
  (classes.map[code]?.getD classes.catchAll).toNat

/-- The class of the next character, or of the end of input. -/
def classOf (classes : CharClasses) : Option Char → Nat
  | none => 0
  | some c => classes.classOfCode c.toNat

/-- The end of the input is of class 0. -/
theorem classOf_none (classes : CharClasses) : classes.classOf none = 0 := rfl

/-- If all listed classes and the catch-all class are below `count`, so is every class. -/
theorem classOf_lt {classes : CharClasses} {count : Nat} (hcount : 0 < count)
    (hmap : ∀ x ∈ classes.map, x.toNat < count) (hall : classes.catchAll.toNat < count)
    (next : Option Char) : classes.classOf next < count := by
  cases next with
  | none => exact hcount
  | some c =>
    simp only [classOf, classOfCode]
    cases h : classes.map[c.toNat]? with
    | none => exact hall
    | some x => exact hmap x (Array.mem_of_getElem? h)

end CharClasses

end ScanSchema
