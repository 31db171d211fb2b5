import CommandShell.Pattern.CharacterClass
import CommandShell.Pattern.Parse

/-!
# Searching by a pattern

Matching goes through the pattern from left to right and hands the place it has reached to what
follows; alternatives and counts are tried in the order the pattern gives them.

Groups leave marks at their two ends, and a failed attempt can leave marks behind. They are
withdrawn as far as the rules say: inside of a repeated part an alternative or a count that fails
restores all marks, elsewhere it only removes the marks that it has added. What stays is visible to
later references to groups. A failed attempt also tells how far it got; a possessive repetition
goes on from there.
-/

namespace CommandShell.Pattern

open Text

/-! ### Marks -/

/-- The marks of groups: the start and the end of each, in turn, up to the last one set. -/
abbrev Marks := List (Option Nat)

/-- The marks with one of them set to a place. -/
def Marks.put (place : Nat) : (index : Nat) → Marks → Marks
  | 0, [] => [some place]
  | 0, _ :: marks => some place :: marks
  | index + 1, [] => none :: Marks.put place index []
  | index + 1, mark :: marks => mark :: Marks.put place index marks

/-- The marks of a group, numbered from one, if both are set and in order. -/
def Marks.span? (marks : Marks) (group : Nat) : Option (Nat × Nat) :=
  match marks[2 * group - 2]?, marks[2 * group - 1]? with
  | some (some first), some (some last) => if first ≤ last then some (first, last) else none
  | _, _ => none

/-- Whether no group ends before it starts. -/
def Marks.inOrder : Marks → Bool
  | some first :: some last :: marks => first ≤ last && Marks.inOrder marks
  | _ :: _ :: marks => Marks.inOrder marks
  | _ => true

/-- What an attempt leaves: how far it got, and the marks. -/
structure Trail where
  place : Nat
  marks : Marks := []

/-- The trail after a failed attempt that started with the marks `saved`. -/
def Trail.restore (t : Trail) (repeating : Bool) (saved : Marks) : Trail :=
  { t with marks := if repeating then saved else t.marks.take saved.length }

/-- How an attempt ends. -/
structure Outcome where
  matched : Bool
  trail : Trail

/-- A failed attempt. -/
def failure (t : Trail) : Outcome := ⟨false, t⟩

/-- An attempt from a place on. -/
abbrev Attempt := Nat → Trail → Outcome

/-- The attempt that ends a pattern, or a part that is tried by itself. -/
def arrive : Attempt := fun p t => ⟨true, { t with place := p }⟩

/-- Starts an attempt by itself at a place. -/
def Attempt.start (k : Attempt) (p : Nat) (t : Trail) : Outcome := k p { t with place := p }

/-! ### Places -/

/-- Whether a word starts or ends at a place; `none` in the empty text, where nothing does. -/
def boundaryAt? (text : Array Char) (ascii : Bool) (p : Nat) : Option Bool :=
  let isWord (x : Option Char) := x.any (Category.word.contains ascii)
  if text.isEmpty then none
  else some (isWord (if p = 0 then none else text[p - 1]?) != isWord text[p]?)

/-- Whether a place of a text is what an anchor asks for. -/
def Anchor.holds (text : Array Char) (s : Settings) (p : Nat) : Anchor → Bool
  | textStart => p == 0
  | textEnd => p == text.size
  | beginning => p == 0 || (s.multiline && text[p - 1]? == some '\n')
  | ending =>
    p == text.size || (text[p]? == some '\n' && (s.multiline || p + 1 == text.size))
  | boundary => boundaryAt? text s.ascii p == some true
  | noBoundary => boundaryAt? text s.ascii p == some false

/-- The number of characters from a place on that an item takes one after another, up to a
limit. -/
def runLength (text : Array Char) (s : Settings) (item : Node) : (limit p : Nat) → Nat
  | 0, _ => 0
  | limit + 1, p =>
    match text[p]? with
    | some x => if item.takes s x then runLength text s item limit (p + 1) + 1 else 0
    | none => 0

/-- Whether the `count` characters at a place are those at another one. -/
def sameText (text : Array Char) (s : Settings) (p : Nat) : (count q : Nat) → Bool
  | 0, _ => true
  | count + 1, q =>
    match text[p]?, text[q]? with
    | some x, some y =>
      (if s.ignoreCase then s.lower x.toNat == s.lower y.toNat else x == y)
        && sameText text s (p + 1) count (q + 1)
    | _, _ => false

/-! ### Repetitions of one character -/

/-- Tries counts from the greatest down to the least; `base` is the place of count zero. Counts
that `skip` excludes are passed over. -/
def downward (k : Attempt) (repeating : Bool) (skip : Nat → Bool) (least base : Nat) :
    (count : Nat) → Trail → Outcome
  | 0, t =>
    if 0 < least || skip base then failure t
    else
      let o := k.start base t
      if o.matched then o else failure (o.trail.restore repeating t.marks)
  | count + 1, t =>
    if count + 1 < least then failure t
    else if skip (base + count + 1) then downward k repeating skip least base count t
    else
      let o := k.start (base + count + 1) t
      if o.matched then o
      else downward k repeating skip least base count (o.trail.restore repeating t.marks)

/-- Tries counts upward from `count`, as long as the item takes a character and the greatest count
is not passed. The number of characters left bounds them. -/
def upward (k : Attempt) (repeating : Bool) (takes : Nat → Bool) (folded : Bool)
    (most : Option Nat) : (left count p : Nat) → Trail → Outcome
  | left, count, p, t =>
    if most.any (· < count) then failure t
    else
      let o := k.start p t
      if o.matched then o
      else
        let t := { o.trail.restore repeating t.marks with place := p }
        match left with
        | 0 => failure t
        | left + 1 =>
          if takes p then
            upward k repeating takes folded most left (count + 1) (p + 1)
              (if folded then { t with place := p + 1 } else t)
          else failure t

/-- Repeats an item for one character. `next` is the character that must follow, if it is
known. -/
def repeatSingle (text : Array Char) (s : Settings) (item : Node) (repeating : Bool)
    (next : Option Nat) (least : Nat) (most : Option Nat) (greed : Greed) (k : Attempt) :
    Attempt := fun p t =>
  let left := text.size - p
  let folded := item.isFolded s
  let counted (limit : Nat) := runLength text s item limit p
  let after (n : Nat) : Trail := { t with place := if folded then p + n else p }
  let limit := match most with
    | some most => min most left
    | none => left
  if left < least then failure t
  else match greed with
    | .greedy =>
      let n := counted limit
      if n < least then failure (after n)
      else
        let skip (q : Nat) := next.any fun code => text[q]?.map Char.toNat != some code
        downward k repeating skip least p n (after n)
    | .lazy =>
      let n := counted least
      if n < least then failure (after n)
      else
        let takes (q : Nat) := text[q]?.any fun x => item.takes s x
        upward k repeating takes folded most (left - n) n (p + n) (after n)
    | .possessive =>
      let n := counted limit
      if n < least then failure (after n) else k.start (p + n) t

/-! ### Repetitions of rows -/

/-- Turns of a greedy repetition, `count` of them done. `last` is where the last turn beyond the
least count started: no further turn starts at the same place. -/
def greedyTurns (turn : Attempt → Attempt) (least : Nat) (most : Option Nat) (k : Attempt) :
    (fuel count : Nat) → (last : Option Nat) → Attempt
  | 0, _, _ => fun _ t => failure t
  | fuel + 1, count, last => fun p t =>
    if count < least then
      let o := (turn (greedyTurns turn least most k fuel (count + 1) last)).start p t
      if o.matched then o else failure { o.trail with place := p }
    else
      let finish (_ : Unit) : Outcome :=
        let o := k.start p t
        if o.matched then o else failure { o.trail with place := p }
      if most.all (count < ·) && last != some p then
        let o := (turn (greedyTurns turn least most k fuel (count + 1) (some p))).start p t
        if o.matched then o else finish ()
      else finish ()

/-- Turns of a lazy repetition, `count` of them done. -/
def lazyTurns (turn : Attempt → Attempt) (least : Nat) (most : Option Nat) (repeating : Bool)
    (k : Attempt) : (fuel count : Nat) → (last : Option Nat) → Attempt
  | 0, _, _ => fun _ t => failure t
  | fuel + 1, count, last => fun p t =>
    let further (last : Option Nat) (t : Trail) : Outcome :=
      let o := (turn (lazyTurns turn least most repeating k fuel (count + 1) last)).start p t
      if o.matched then o else failure { o.trail with place := p }
    if count < least then further last t
    else
      let o := k.start p t
      if o.matched then o
      else
        let t := o.trail.restore repeating t.marks
        if most.all (count < ·) && last != some p then further (some p) t
        else failure { t with place := p }

/-- The turns of a possessive repetition that are due. -/
def dueTurns (turn : Attempt) : (count : Nat) → Trail → Outcome
  | 0, t => ⟨true, t⟩
  | count + 1, t =>
    let o := turn t.place t
    if o.matched then dueTurns turn count o.trail else o

/-- The further turns of a possessive repetition, `count` of them done. The marks of a failed turn
are withdrawn, but not how far it got. -/
def freeTurns (turn : Attempt) (most : Option Nat) :
    (fuel count : Nat) → (last : Option Nat) → Trail → Trail
  | 0, _, _, t => t
  | fuel + 1, count, last, t =>
    if most.all (count < ·) && last != some t.place then
      let o := turn t.place t
      if o.matched then freeTurns turn most fuel (count + 1) (some t.place) o.trail
      else { o.trail with marks := t.marks }
    else t

/-- Repeats a row, given by its turn. -/
def repeatRow (size : Nat) (turn : Bool → Attempt → Attempt) (repeating : Bool) (least : Nat)
    (most : Option Nat) (greed : Greed) (k : Attempt) : Attempt := fun p t =>
  let fuel := least + (size + 2) * (size + 2)
  match greed with
  | .greedy => greedyTurns (turn true) least most k fuel 0 none p t
  | .lazy => lazyTurns (turn true) least most repeating k fuel 0 none p t
  | .possessive =>
    let o := dueTurns (turn repeating arrive) least { t with place := p }
    if o.matched then
      let t := freeTurns (turn repeating arrive) most fuel least none o.trail
      k t.place t
    else failure { o.trail with place := p }

/-! ### Patterns -/

/-- Matches a row or an item at a place and goes on with `k`. `repeating` tells that the part is
inside of a repetition; `next` is the character that must follow the part, if it is known. -/
def Node.run (text : Array Char) (groups : Nat → Width) :
    Node → (s : Settings) → (repeating : Bool) → (next : Option Nat) → Attempt → Attempt
  | empty, _, _, _, k => k
  | seq item rest, s, repeating, next, k =>
    item.run text groups s repeating (rest.leading s next)
      (rest.run text groups s repeating next k)
  | never, _, _, _, _ => fun _ t => failure t
  | alt row rest, s, repeating, next, k => fun p t =>
    let others (t : Trail) := rest.run text groups s repeating next k p t
    if row.excludes s text[p]? then others t
    else
      let o := (row.run text groups s repeating none k).start p t
      if o.matched then o else others (o.trail.restore repeating t.marks)
  | char code, s, _, _, k => fun p t =>
    if text[p]?.any fun x => charContains s code x then k (p + 1) t else failure t
  | otherChar code, s, _, _, k => fun p t =>
    if text[p]?.any fun x => !charContains s code x then k (p + 1) t else failure t
  | any, s, _, _, k => fun p t =>
    if text[p]?.any fun x => s.dotAll || x != '\n' then k (p + 1) t else failure t
  | set negated items, s, _, _, k => fun p t =>
    if text[p]?.any fun x => setContains s items x != negated then k (p + 1) t else failure t
  | anchor a, s, _, _, k => fun p t => if a.holds text s p then k p t else failure t
  | group none on off row, s, repeating, next, k =>
    row.run text groups (s.apply on off) repeating next k
  | group (some i) on off row, s, repeating, _, k => fun p t =>
    let close : Attempt := fun p t => k p { t with marks := t.marks.put p (2 * i - 1) }
    row.run text groups (s.apply on off) repeating none close p
      { t with marks := t.marks.put p (2 * i - 2) }
  | branch alternatives, s, repeating, next, k =>
    alternatives.run text groups s repeating next k
  | repeated least most greed row, s, repeating, next, k =>
    match row.single? s with
    | some (s, item) => repeatSingle text s item repeating next least most greed k
    | none =>
      repeatRow text.size (fun repeating k => row.run text groups s repeating none k) repeating
        least most greed k
  | look behind negated row, s, repeating, _, k => fun p t =>
    let distance := if behind then (row.width groups).bounded.least else 0
    let attempt (_ : Unit) := (row.run text groups s repeating none arrive).start (p - distance) t
    if negated then
      if p < distance then k p t
      else
        let o := attempt ()
        if o.matched then failure o.trail else k p (o.trail.restore repeating t.marks)
    else if p < distance then failure t
    else
      let o := attempt ()
      if o.matched then k p o.trail else o
  | atomic row, s, repeating, _, k => fun p t =>
    let o := (row.run text groups s repeating none arrive).start p t
    if o.matched then k o.trail.place o.trail else failure { o.trail with place := p }
  | back i, s, _, _, k => fun p t =>
    match t.marks.span? i with
    | some (first, last) =>
      if sameText text s first (last - first) p then k (p + (last - first)) t else failure t
    | none => failure t
  | cond i yes no, s, repeating, next, k => fun p t =>
    if (t.marks.span? i).isSome then
      yes.run text groups s repeating (if no == .empty then next else none) k p t
    else no.run text groups s repeating next k p t

/-! ### Where a match can start -/

/-- Whether a row starts with a character whose case does not matter, looked up in groups; `none`
for an empty row. -/
def Node.startsPlain? (s : Settings) : Node → Option Bool
  | seq (char code) _ => some (!s.folds code)
  | seq (group _ on off row) rest => (row.startsPlain? (s.apply on off)).or (rest.startsPlain? s)
  | seq _ _ => some false
  | _ => none

/-- The characters that alternatives start with, if each does with one whose case does not
matter. -/
def Node.starts? (s : Settings) : Node → Option (List SetItem)
  | alt (seq (char code) _) rest =>
    if s.folds code then none else (rest.starts? s).map (SetItem.char code :: ·)
  | never => some []
  | _ => none

/-- The characters that a row can start with, if a set or alternatives at its start tell so without
regard to case: whether they are excluded instead, and the items. -/
def Node.startSet? (s : Settings) : Node → Option (Bool × List SetItem)
  | seq (group _ on off row) _ => row.startSet? (s.apply on off)
  | seq (branch alternatives) _ => (alternatives.starts? s).map (false, ·)
  | seq (set negated items) _ => if items.any (fun item => isOpen item) then none
    else some (negated, items)
  | _ => none
where
  /-- Whether the case of an item matters. -/
  isOpen : SetItem → Bool
    | .char code => s.folds code
    | .range first last => s.ignoreCase && (planeEnd < last || s.foldsWithin first last)
    | .category .. => false

/-- The places of a text at which a pattern is tried. A set of first characters is tested under the
settings of the whole pattern. -/
def Compiled.places (p : Compiled) (text : Array Char) : List Nat :=
  let least := (p.row.width p.groups).bounded.least
  let all := List.range (text.size + 1)
  if least = 0 then all
  else if text.size < least then []
  else if p.row.startsPlain? p.settings == some true then all
  else match p.row.startSet? p.settings with
    | some (negated, items) =>
      all.filter fun i => text[i]?.any fun x =>
        items.any (SetItem.contains p.settings.ascii x.toNat) != negated
    | none => List.range (text.size + 1 - (least - 1))

/-- The marks of the match of a pattern at a place of a text, if there is one. -/
def Compiled.matchAt? (p : Compiled) (text : Array Char) (place : Nat) : Option Marks :=
  let o := p.row.run text p.groups p.settings false none arrive place { place }
  if o.matched then some o.trail.marks else none

/-- Whether a pattern matches somewhere in a text. -/
def Compiled.search (p : Compiled) (text : String) : Except PatternError Bool :=
  let chars := text.toList.toArray
  match (p.places chars).findSome? (p.matchAt? chars) with
  | none => .ok false
  | some marks => if marks.inOrder then .ok true else .error .crossedGroup

end CommandShell.Pattern
