import PodCheck.Yaml.Cursor

/-! # Scalars of YAML

The texts of plain, quoted and block scalars. Lines of plain and quoted scalars are joined: one line
break is a space, and of several all but the first stay. -/

namespace PodCheck.Yaml

/-! ## Joining lines -/

/-- Blanks and line breaks that are held back until more of the scalar follows. -/
structure Gap where
  /-- Blanks in the line, reversed. -/
  blanks : List Char
  /-- Whether the gap reaches into another line. -/
  broken : Bool
  /-- The first line break. -/
  first : Option Char
  /-- The other line breaks, reversed. -/
  more : List Char

/-- No gap. -/
def Gap.none : Gap := ⟨[], false, .none, []⟩

/-- Holds back a blank. At the beginning of a line it is dropped. -/
def Gap.addBlank (g : Gap) (c : Char) : Gap :=
  if g.broken then g else { g with blanks := c :: g.blanks }

/-- Holds back a line break. -/
def Gap.addBreak (g : Gap) (b : Char) : Gap :=
  if g.broken then { g with more := b :: g.more } else ⟨[], true, some b, []⟩

/-- What a gap inside a scalar stands for, reversed. -/
def Gap.flush (g : Gap) : List Char :=
  if g.broken then
    match g.first with
    | some '\n' => if g.more = [] then [' '] else g.more
    | some b => g.more ++ [b]
    | .none => g.more
  else g.blanks

/-- Without a gap nothing is written. -/
@[simp] theorem Gap.flush_none : Gap.none.flush = [] := rfl

/-- A scalar with the cursor behind it. -/
structure Scanned where
  /-- The text. -/
  text : List Char
  /-- The cursor behind the scalar. -/
  cursor : Cursor

/-! ## Plain scalars -/

/-- Whether a character ends a plain scalar inside brackets or braces. -/
def isFlowMark (c : Char) : Bool := c = ',' || c = '[' || c = ']' || c = '\x7b' || c = '\x7d'

/-- A plain scalar, with whether its end was found on another line than its last character. The
scalar ends at a comment, a document marker, a value indicator, in a block at a line that is not
indented deeply enough, and inside brackets at one of their indicators. -/
def scanPlain (flow : Bool) (least : Nat) (done : List Char) (gap : Gap) (word : Bool)
    (place : Place) (s : List Char) : Option (Scanned × Bool) :=
  let stop : Option (Scanned × Bool) := some (⟨done.reverse, place, s⟩, gap.broken)
  match s with
  | [] => stop
  | '\r' :: '\n' :: r =>
    scanPlain flow least done (gap.addBreak '\n') false (place.down ['\r', '\n']) r
  | c :: r =>
    if isBreak c then
      let b := if c = '\r' || c = '\u0085' then '\n' else c
      scanPlain flow least done (gap.addBreak b) false (place.down [c]) r
    else if isBlank c then
      if gap.broken && place.column < least && c = '\t' then none
      else scanPlain flow least done (gap.addBlank c) false (place.right c) r
    else if !word && ((!flow && place.column < least && gap.broken)
        || (place.column = 0 && atDocumentMarker (c :: r)) || c = '#') then stop
    else if flow && c = ':' && r.head?.any (fun d => isFlowMark d || d = '?') then none
    else if (c = ':' && atGap r) || (flow && isFlowMark c) then stop
    else scanPlain flow least (c :: (gap.flush ++ done)) .none true (place.right c) r

/-! ## Quoted scalars -/

/-- The value of a hexadecimal digit. -/
def hexDigit? (c : Char) : Option Nat :=
  if c.isDigit then some (c.toNat - 48)
  else if 'a' ≤ c && c ≤ 'f' then some (c.toNat - 87)
  else if 'A' ≤ c && c ≤ 'F' then some (c.toNat - 55)
  else none

/-- The number of some hexadecimal digits, all of which must be there. -/
def hexNumber? (digits : Nat) (s : List Char) : Option Nat :=
  if s.length < digits then none
  else (s.take digits).foldlM (fun n c => (hexDigit? c).map (n * 16 + ·)) 0

/-- The character of an escape without digits. -/
def plainEscape? : Char → Option Char
  | '0' => some '\x00'
  | 'a' => some '\x07'
  | 'b' => some '\x08'
  | 't' => some '\t'
  | '\t' => some '\t'
  | 'n' => some '\n'
  | 'v' => some '\x0b'
  | 'f' => some '\x0c'
  | 'r' => some '\r'
  | 'e' => some '\x1b'
  | ' ' => some ' '
  | '"' => some '"'
  | '/' => some '/'
  | '\\' => some '\\'
  | 'N' => some '\u0085'
  | '_' => some '\u00a0'
  | 'L' => some '\u2028'
  | 'P' => some '\u2029'
  | _ => none

/-- The number of hexadecimal digits of an escape by code point. -/
def escapeDigits? : Char → Option Nat
  | 'x' => some 2
  | 'u' => some 4
  | 'U' => some 8
  | _ => none

/-- An escape behind its backslash: the character and the length of the escape. Surrogates are no
characters. -/
def escape? : List Char → Option (Char × Nat)
  | [] => none
  | c :: r =>
    match plainEscape? c with
    | some d => some (d, 1)
    | none => do
      let digits ← escapeDigits? c
      let n ← hexNumber? digits r
      if (0xD800 ≤ n && n ≤ 0xDFFF) || 0x10FFFF < n then none
      else pure (Char.ofNat n, digits + 1)

/-- A scalar in quotes, from behind the opening quote to behind the closing one. Every call takes a
unit of fuel. -/
def scanQuoted (single : Bool) : Nat → List Char → Gap → Place → List Char → Option Scanned
  | 0, _, _, _, _ => none
  | fuel + 1, done, gap, place, s =>
    if place.column = 0 && atDocumentMarker s then none
    else
      match s with
      | [] => none
      | c :: r =>
        if isBlank c then scanQuoted single fuel done (gap.addBlank c) (place.right c) r
        else
          match (Cursor.mk place s).takeBreak? with
          | some (b, n) => scanQuoted single fuel done (gap.addBreak b) n.place n.rest
          | none =>
            let done := gap.flush ++ done
            if single then
              if c ≠ '\'' then scanQuoted single fuel (c :: done) .none (place.right c) r
              else
                match r with
                | '\'' :: r => scanQuoted single fuel (c :: done) .none (place.along [c, c]) r
                | r => some ⟨done.reverse, place.right c, r⟩
            else if c = '"' then some ⟨done.reverse, place.right c, r⟩
            else if c ≠ '\\' then scanQuoted single fuel (c :: done) .none (place.right c) r
            else
              match (Cursor.mk (place.right c) r).takeBreak? with
              | some (_, n) => scanQuoted single fuel done ⟨[], true, .none, []⟩ n.place n.rest
              | none =>
                match escape? r with
                | some (d, n) =>
                  scanQuoted single fuel (d :: done) .none (place.along (c :: r.take n)) (r.drop n)
                | none => none

/-! ## Block scalars -/

/-- What happens to the line breaks at the end of a block scalar. -/
inductive Chomp
  /-- The first one stays. -/
  | clip
  /-- All are dropped. -/
  | strip
  /-- All stay. -/
  | keep

/-- The header of a block scalar: how its end is treated and, if given, how deep it is indented. -/
def blockHeader? (c : Cursor) : Option (Chomp × Option Nat × Cursor) :=
  let chomp? : Char → Option Chomp := fun d =>
    if d = '+' then some .keep else if d = '-' then some .strip else none
  let indent? : Char → Option (Option Nat) := fun d =>
    if d = '0' then none else some (if d.isDigit then some (d.toNat - 48) else none)
  match c.rest with
  | [] => some (.clip, none, c)
  | a :: r =>
    match chomp? a with
    | some chomp =>
      match r with
      | b :: _ => (indent? b).map fun i => (chomp, i, c.skip (if i.isSome then 2 else 1))
      | [] => some (chomp, none, c.skip 1)
    | none =>
      match indent? a with
      | none => none
      | some none => some (.clip, none, c)
      | some (some i) =>
        match r.head?.bind chomp? with
        | some chomp => some (chomp, some i, c.skip 2)
        | none => some (.clip, some i, c.skip 1)

/-- The empty lines before a line of a block scalar. -/
structure EmptyLines where
  /-- Their line breaks, reversed. -/
  breaks : List Char
  /-- The deepest column that their spaces reach. -/
  reach : Nat
  /-- The cursor in the line after them. -/
  cursor : Cursor

/-- Skips the indentation of a block scalar with the empty lines in it. Without a known indentation
all spaces are skipped. -/
def emptyLines? (indent : Option Nat) : Nat → List Char → Nat → Cursor → Option EmptyLines
  | 0, _, _, _ => none
  | fuel + 1, breaks, reach, c =>
    let spaces := (c.rest.takeWhile (· = ' ')).length
    let spaces := match indent with
      | some i => min spaces (i - c.place.column)
      | none => spaces
    let c := c.skip spaces
    let reach := max reach c.place.column
    if indent.all (c.place.column < ·) && c.rest.head? = some '\t' then none
    else
      match c.takeBreak? with
      | some (b, c) => emptyLines? indent fuel (b :: breaks) reach c
      | none => some ⟨breaks, reach, c⟩

/-- The lines of a block scalar from the one at the cursor on. `first` is the line break before it,
`breaks` are those of the empty lines between, and `blank` tells whether the line before it began
with a blank. -/
def blockLines? (literal : Bool) (chomp : Chomp) (indent : Nat) :
    Nat → List Char → Option Char → List Char → Bool → Cursor → Option Scanned
  | 0, _, _, _, _, _ => none
  | fuel + 1, done, first, breaks, blank, c =>
    if c.place.column ≠ indent || c.rest = [] then
      let done := match chomp with
        | .strip => done
        | .clip => first.toList ++ done
        | .keep => breaks ++ (first.toList ++ done)
      some ⟨done.reverse, c⟩
    else
      let blankHere := c.rest.head?.any isBlank
      let joined :=
        if !literal && first = some '\n' && !blank && !blankHere then
          if breaks = [] then [' '] else breaks
        else breaks ++ first.toList
      let line := c.rest.takeWhile fun d => !isBreak d
      let c := c.skip line.length
      let (first, c) := match c.takeBreak? with
        | some (b, c) => (some b, c)
        | none => (none, c)
      match emptyLines? (some indent) (c.rest.length + 1) [] 0 c with
      | none => none
      | some e =>
        blockLines? literal chomp indent fuel (line.reverse ++ (joined ++ done)) first e.breaks
          blankHere e.cursor

/-- A block scalar from behind its indicator, inside a block at column `parent`, if there is one. -/
def scanBlock? (literal : Bool) (parent : Option Nat) (c : Cursor) : Option Scanned := do
  let (chomp, increment, c) ← blockHeader? c
  let c := c.skipWhile isBlank
  let c := if c.rest.head? = some '#' then c.skipLine else c
  if !atLineEnd c.rest then none
  else
    let c := c.skipBreak
    let known := increment.map fun i => i + parent.getD 0
    let e ← emptyLines? known (c.rest.length + 1) [] 0 c
    let least := parent.elim 0 (· + 1)
    let indent := known.getD (max e.reach (max least 1))
    blockLines? literal chomp indent (e.cursor.rest.length + 1) [] none e.breaks false e.cursor

end PodCheck.Yaml
