/-!
# Targets

A target names a place inside a record by the keys and indices that lead to it.  Its pointer
writes each of them behind a slash, with a tilde as `~0` and a slash as `~1`.
-/

namespace RecordFilter

structure Target where
  segments : List String
deriving DecidableEq

/-- Why a text is no pointer, or no pointer that a filter can hold. -/
inductive PointerFault where
  | noSlash
  | strayTilde
  | root
deriving DecidableEq

namespace PointerFault

def message : PointerFault → String
  | noSlash => "a pointer must start with `/`"
  | strayTilde => "`~` must be followed by `0` or `1`"
  | root => "the root pointer cannot be written in a filter"

end PointerFault

/-- A text that was refused as a pointer. -/
structure PointerError where
  pointer : String
  fault : PointerFault
deriving DecidableEq

namespace PointerError

def message (e : PointerError) : String :=
  "invalid target `" ++ e.pointer ++ "`: " ++ e.fault.message

end PointerError

namespace Target

/-!
# Writing pointers
-/

def escape (c : Char) : List Char :=
  if c = '~' then ['~', '0']
  else if c = '/' then ['~', '1']
  else [c]

def escapeSegment (segment : List Char) : List Char :=
  segment.flatMap escape

def pointerText (target : Target) : List Char :=
  target.segments.flatMap fun segment => '/' :: escapeSegment segment.toList

def pointer (target : Target) : String :=
  String.ofList target.pointerText

/-- The target of the whole record, whose pointer is the empty text. -/
def isRoot (target : Target) : Bool :=
  target.segments.isEmpty

/-!
# Reading pointers
-/

/-- The pieces of a text between slashes, of which there is at least one. -/
def pieces : List Char → List (List Char)
  | [] => [[]]
  | c :: rest =>
      if c = '/' then [] :: pieces rest
      else
        match pieces rest with
        | [] => [[c]]
        | first :: others => (c :: first) :: others

def unescapeSegment : List Char → Option (List Char)
  | [] => some []
  | c :: rest =>
      if c = '~' then
        match rest with
        | [] => none
        | d :: rest' =>
            if d = '0' then (unescapeSegment rest').map ('~' :: ·)
            else if d = '1' then (unescapeSegment rest').map ('/' :: ·)
            else none
      else (unescapeSegment rest).map (c :: ·)

def parse (pointer : String) : Except PointerError Target :=
  match pointer.toList with
  | [] => .ok ⟨[]⟩
  | c :: rest =>
      if c = '/' then
        match (pieces rest).mapM unescapeSegment with
        | some segments => .ok ⟨segments.map String.ofList⟩
        | none => .error ⟨pointer, .strayTilde⟩
      else .error ⟨pointer, .noSlash⟩

end Target

end RecordFilter
