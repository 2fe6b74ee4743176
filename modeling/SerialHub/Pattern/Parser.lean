import SerialHub.Pattern.Syntax
import SerialHub.Pattern.Classes
import SerialHub.Text.Blank
import SerialHub.Unicode.Character

/-!
# Reading patterns

Patterns are read in the common regular-expression syntax: literals and escapes, classes with set
operators, Perl classes, Unicode properties, groups with flags, alternation and repetition. What
the syntax does not allow is refused, as is nesting deeper than 250 levels and, without Unicode,
whatever could match part of a character; with case folding each item gets the other cases of its
letters before any negation.
-/

namespace SerialHub.Pattern

/-- Why a pattern could not be read. -/
inductive PatternError where
  | unclosedGroup
  | unopenedGroup
  | unclosedClass
  | badRange
  | missingRepetition
  | badRepetition
  | badEscape
  | badGroupName
  | duplicateGroupName
  | badFlag
  | unknownClass
  | unicodeDisabled
  | invalidUtf8
  | tooDeep
  | tooLarge
  deriving Repr, DecidableEq, Inhabited

/-- The flags in force while reading. -/
structure Flags where
  caseless : Bool := false
  multiLine : Bool := false
  dotAll : Bool := false
  verbose : Bool := false
  unicode : Bool := true
  crlf : Bool := false
  swapGreed : Bool := false
  deriving Repr, DecidableEq, Inhabited

/-- What an escape stands for. -/
inductive Escaped where
  | lit (c : Nat)
  | cls (s : CharSet)
  | assert (a : Assertion)
  deriving Repr, Inhabited

/-- What the last item of a sequence was, for a repetition that follows it. -/
inductive LastItem where
  | nothing
  | flags
  | node
  deriving Repr, DecidableEq, Inhabited

/-- The value of a hexadecimal digit. -/
def hexVal (c : Char) : Option Nat :=
  if '0' ≤ c ∧ c ≤ '9' then some (c.toNat - 48)
  else if 'a' ≤ c ∧ c ≤ 'f' then some (c.toNat - 87)
  else if 'A' ≤ c ∧ c ≤ 'F' then some (c.toNat - 55)
  else none

/-- The number written by hexadecimal digits. -/
def hexNumber (ds : List Char) : Option Nat :=
  ds.foldl (fun acc d => do let a ← acc; let v ← hexVal d; pure (16 * a + v)) (some 0)

/-- Whether a number is a code point of a character. -/
def isScalar (n : Nat) : Bool :=
  n ≤ maxCodePoint && !(0xD800 ≤ n && n ≤ 0xDFFF)

/-- Skips blanks and `#` comments up to the end of their line. -/
def skipComments : List Char → List Char
  | [] => []
  | '#' :: rest => skipComments (rest.dropWhile (· != '\n'))
  | c :: rest => if Text.isBlank c then skipComments rest else c :: rest
termination_by cs => cs.length
decreasing_by
  all_goals
    simp only [List.length_cons]
    have h : (rest.dropWhile (fun x => x != '\n')) <:+ rest := List.dropWhile_suffix _
    have := h.length_le
    omega

/-- Skips blanks and `#` comments when the verbose flag is set. -/
def skipBlanks (flags : Flags) (cs : List Char) : List Char :=
  if flags.verbose then skipComments cs else cs

/-- The characters at the head of a list that pass a test, at most `fuel` of them, and the rest;
in verbose mode blanks and comments after each one taken are skipped. -/
def takeSpaced (flags : Flags) (p : Char → Bool) : Nat → List Char → List Char × List Char
  | 0, cs => ([], cs)
  | _ + 1, [] => ([], [])
  | fuel + 1, c :: rest =>
    if p c then
      let (taken, r) := takeSpaced flags p fuel (skipBlanks flags rest)
      (c :: taken, r)
    else ([], c :: rest)

/-- Whether a character is a hexadecimal digit. -/
def isHexDigit (c : Char) : Bool := (hexVal c).isSome

/-- Reads a code point after `\x`, `\u` or `\U`: any number of hexadecimal digits in braces, or
exactly `count` digits; in verbose mode blanks and comments may stand before and between them.
The digits must name a character, leading zeros allowed. -/
def hexEscape (flags : Flags) (count : Nat) (cs : List Char) :
    Except PatternError (Escaped × List Char) :=
  match skipBlanks flags cs with
  | '{' :: rest =>
    let rest := skipBlanks flags rest
    match takeSpaced flags isHexDigit (rest.length + 1) rest with
    | (ds, '}' :: rest') =>
      match hexNumber ds with
      | some n =>
        if !ds.isEmpty && isScalar n then .ok (.lit n, skipBlanks flags rest') else .error .badEscape
      | none => .error .badEscape
    | _ => .error .badEscape
  | cs' =>
    let (ds, rest) := takeSpaced flags isHexDigit count cs'
    match hexNumber ds with
    | some n =>
      if ds.length == count && isScalar n then .ok (.lit n, rest) else .error .badEscape
    | none => .error .badEscape

/-- The characters of a name in braces up to its `}`, and the rest after it; in verbose mode
blanks and comments inside the braces are skipped. -/
def braceName (flags : Flags) : Nat → List Char → Option (List Char × List Char)
  | 0, _ => none
  | fuel + 1, cs =>
    match skipBlanks flags cs with
    | [] => none
    | '}' :: rest => some ([], rest)
    | c :: rest => (braceName flags fuel rest).map (fun (name, r) => (c :: name, r))

/-- The position of the first `!=` in a list of characters. -/
def notEqualAt? : List Char → Option Nat
  | '!' :: '=' :: _ => some 0
  | _ :: rest => (notEqualAt? rest).map (· + 1)
  | [] => none

/-- The class that the text of a property escape names, and whether it is negated: `name`,
`name=value`, `name:value`, or `name!=value`, which is negated. -/
def propertyClass? (text : List Char) : Option (Bool × CharSet) :=
  let valueAt (i width : Nat) :=
    Classes.valueClass? (String.ofList (text.take i)) (String.ofList (text.drop (i + width)))
  match notEqualAt? text with
  | some i => (valueAt i 2).map (true, ·)
  | none =>
    match text.findIdx? (fun c => c == ':' || c == '=') with
    | some i => (valueAt i 1).map (false, ·)
    | none => (Classes.namedClass? (String.ofList text)).map (false, ·)

/-- Reads a Unicode property class after `\p` or `\P`, with the other cases of its letters
added before it is negated. -/
def propertyEscape (flags : Flags) (negated : Bool) (cs : List Char) :
    Except PatternError (Escaped × List Char) :=
  let named : Except PatternError (List Char × List Char) :=
    match skipBlanks flags cs with
    | '{' :: rest =>
      match braceName flags (rest.length + 1) rest with
      | some r => .ok r
      | none => .error .badEscape
    | '\\' :: _ => .error .badEscape
    | c :: rest => .ok ([c], skipBlanks flags rest)
    | [] => .error .badEscape
  match named with
  | .error e => .error e
  | .ok (text, rest) =>
    if !flags.unicode then .error .unicodeDisabled
    else match propertyClass? text with
    | some (flip, s) =>
      let s := if flags.caseless then Classes.withCases true s else s
      .ok (.cls (if negated != flip then s.complement else s), rest)
    | none => .error .unknownClass

/-- Whether an ASCII character may be escaped to stand for itself. -/
def isEscapable (c : Char) : Bool :=
  c.toNat < 128 && !c.isAlphanum && c != '<' && c != '>'

/-- Whether a character may stand in the name of a special word boundary such as `\b{start}`. -/
def isBoundaryLetter (c : Char) : Bool := c.isAlpha || c == '-'

/-- Reads what follows a backslash. -/
def escape (flags : Flags) (cs : List Char) : Except PatternError (Escaped × List Char) :=
  let u := flags.unicode
  match cs with
  | [] => .error .badEscape
  | c :: rest =>
    match c with
    | 'd' => .ok (.cls (if u then Classes.unicodeDigit else Classes.asciiDigit), rest)
    | 'D' => if u then .ok (.cls Classes.unicodeDigit.complement, rest) else .error .invalidUtf8
    | 's' => .ok (.cls (if u then Classes.unicodeSpace else Classes.asciiSpace), rest)
    | 'S' => if u then .ok (.cls Classes.unicodeSpace.complement, rest) else .error .invalidUtf8
    | 'w' => .ok (.cls (if u then Classes.unicodeWord else Classes.asciiWord), rest)
    | 'W' => if u then .ok (.cls Classes.unicodeWord.complement, rest) else .error .invalidUtf8
    | 'p' => propertyEscape flags false rest
    | 'P' => propertyEscape flags true rest
    | 'b' =>
      match rest with
      | '{' :: more =>
        let more := skipBlanks flags more
        match more with
        | [] => .error .badEscape
        | c :: _ =>
          if !isBoundaryLetter c then .ok (.assert (.wordBoundary u), rest)
          else
            match takeSpaced flags isBoundaryLetter (more.length + 1) more with
            | (name, '}' :: r) =>
              match String.ofList name with
              | "start" => .ok (.assert (.wordStart u), r)
              | "end" => .ok (.assert (.wordEnd u), r)
              | "start-half" => .ok (.assert (.wordStartHalf u), r)
              | "end-half" => .ok (.assert (.wordEndHalf u), r)
              | _ => .error .badEscape
            | _ => .error .badEscape
      | _ => .ok (.assert (.wordBoundary u), rest)
    | 'B' => .ok (.assert (.notWordBoundary u), rest)
    | 'A' => .ok (.assert .textStart, rest)
    | 'z' => .ok (.assert .textEnd, rest)
    | '<' => .ok (.assert (.wordStart u), rest)
    | '>' => .ok (.assert (.wordEnd u), rest)
    | 'a' => .ok (.lit 7, rest)
    | 'f' => .ok (.lit 12, rest)
    | 't' => .ok (.lit 9, rest)
    | 'n' => .ok (.lit 10, rest)
    | 'r' => .ok (.lit 13, rest)
    | 'v' => .ok (.lit 11, rest)
    | 'x' =>
      match hexEscape flags 2 rest with
      | .ok (.lit n, r) =>
        if !u && n ≥ 0x80 && (skipBlanks flags rest).head? != some '{' then .error .invalidUtf8
        else .ok (.lit n, r)
      | other => other
    | 'u' => hexEscape flags 4 rest
    | 'U' => hexEscape flags 8 rest
    | _ => if isEscapable c then .ok (.lit c.toNat, rest) else .error .badEscape

/-- The class of one literal character, with its other cases when letters match either case. -/
def literalSet (flags : Flags) (n : Nat) : CharSet :=
  if flags.caseless then Classes.withCases flags.unicode (CharSet.single n)
  else CharSet.single n

/-- Makes a bracket class or a class item final: the other cases of its letters are added when
letters match either case, then it is negated if asked. Without Unicode a class may hold only
ASCII characters, as it could otherwise match a part of a character. -/
def finishClass (flags : Flags) (negated : Bool) (s : CharSet) : Except PatternError CharSet :=
  let s := if flags.caseless then Classes.withCases flags.unicode s else s
  let s := if negated then s.complement else s
  if !flags.unicode && !s.isAscii then .error .invalidUtf8 else .ok s

/-- The largest count a repetition may have, the largest 32-bit number. -/
def maxCount : Nat := Nat.pow 2 32 - 1

/-- Reads a count of a repetition: blanks, decimal digits (with blanks and comments between them
in verbose mode), and blanks again. Gives the number if there were digits, and the rest; a number
beyond `maxCount` is an error, leading zeros are not. -/
def countNumber (flags : Flags) (cs : List Char) : Except PatternError (Option Nat × List Char) :=
  let cs := cs.dropWhile Text.isBlank
  let (ds, rest) := takeSpaced flags Char.isDigit (cs.length + 1) cs
  let rest := rest.dropWhile Text.isBlank
  if ds.isEmpty then .ok (none, rest)
  else
    let n := ds.foldl (fun acc d => 10 * acc + (d.toNat - 48)) 0
    if n > maxCount then .error .badRepetition else .ok (some n, rest)

/-- Reads the inside of a counted repetition after `{`: `n}`, `n,}` or `n,m}`, with blanks around
the numbers, and more blanks and comments in verbose mode. -/
def counted (flags : Flags) (cs : List Char) : Except PatternError (Nat × Option Nat × List Char) :=
  match skipBlanks flags cs with
  | [] => .error .badRepetition
  | cs =>
    match countNumber flags cs with
    | .error e => .error e
    | .ok (lo, rest) =>
      match lo, rest with
      | some n, '}' :: r => .ok (n, some n, r)
      | some n, ',' :: r =>
        match skipBlanks flags r with
        | '}' :: r' => .ok (n, none, r')
        | [] => .error .badRepetition
        | r' =>
          match countNumber flags r' with
          | .ok (some m, '}' :: r'') => if n ≤ m then .ok (n, some m, r'') else .error .badRepetition
          | .ok _ => .error .badRepetition
          | .error e => .error e
      | _, _ => .error .badRepetition

/-- Reads a flag list of a group up to `:` or `)`, giving the new flags, whether a scoped group
follows, and the rest. -/
def flagList (flags : Flags) : List Char → Bool → Bool → List Char →
    Except PatternError (Flags × Bool × List Char)
  | [], _, _, _ => .error .unclosedGroup
  | c :: rest, negate, any, seen =>
    if c == ':' || c == ')' then
      if (c == ')' && !any) || (negate && seen.getLast? == some '-') then .error .badFlag
      else .ok (flags, c == ':', rest)
    else if c == '-' then
      if negate then .error .badFlag else flagList flags rest true any (seen ++ [c])
    else if seen.contains c then .error .badFlag
    else
      let on := !negate
      let flags' : Option Flags :=
        match c with
        | 'i' => some { flags with caseless := on }
        | 'm' => some { flags with multiLine := on }
        | 's' => some { flags with dotAll := on }
        | 'x' => some { flags with verbose := on }
        | 'u' => some { flags with unicode := on }
        | 'R' => some { flags with crlf := on }
        | 'U' => some { flags with swapGreed := on }
        | _ => none
      match flags' with
      | some f => flagList f rest negate true (seen ++ [c])
      | none => .error .badFlag

/-- Whether a character may stand in a group name: an underscore or an alphabetic character
first, and later also a numeric character, `.`, `[` or `]`. Names go by the character predicates,
version 17.0, not by the property tables of patterns. -/
def isNameChar (first : Bool) (c : Char) : Bool :=
  c == '_' || Unicode.isAlphabetic c ||
    (!first && (c == '.' || c == '[' || c == ']' || Unicode.isNumeric c))

/-- Reads a group name up to `>`. -/
def groupName (cs : List Char) : Except PatternError (String × List Char) :=
  let name := cs.takeWhile (· != '>')
  match cs.dropWhile (· != '>') with
  | '>' :: rest =>
    match name with
    | [] => .error .badGroupName
    | c :: more =>
      if isNameChar true c && more.all (isNameChar false) then .ok (String.ofList name, rest)
      else .error .badGroupName
  | _ => .error .badGroupName

/-- Applies the operators met so far in a class to its last operand. -/
inductive ClassOp where
  | inter
  | diff
  | symm
  deriving Repr, DecidableEq

/-- Combines two class operands by an operator. -/
def ClassOp.apply : ClassOp → CharSet → CharSet → CharSet
  | .inter, a, b => a.inter b
  | .diff, a, b => a.diff b
  | .symm, a, b => a.symmDiff b

/-- The deepest nesting a pattern may have, counting groups, repetitions, bracket classes,
sequences and alternatives of two or more parts, and class unions and operators. -/
def nestLimit : Nat := 250

/-- The height of a list of siblings in the pattern's tree: two or more stand under one node of
their own, a single one stands alone, and none is an empty leaf. -/
def siblingsHeight (hs : List Nat) : Nat :=
  match hs with
  | [] => 0
  | [h] => h
  | _ => hs.foldl max 0 + 1

/-- A class operand in the making: its code points and the heights of its items. -/
abbrev ClassPart := CharSet × List Nat

/-- The left operand and pending operator of a class, combined with its right operand, with the
height of the result; when letters match either case, both operands first get the other cases
of their letters. -/
def combine (flags : Flags) (pending : Option (CharSet × Nat × ClassOp)) (current : ClassPart) :
    CharSet × Nat :=
  match pending with
  | none => (current.1, siblingsHeight current.2)
  | some (left, h, op) =>
    let cased (s : CharSet) := if flags.caseless then Classes.withCases flags.unicode s else s
    (op.apply (cased left) (cased current.1), max h (siblingsHeight current.2) + 1)

/-- A class operand with one more item of a given height. -/
def ClassPart.add (p : ClassPart) (s : CharSet) (h : Nat) : ClassPart :=
  (p.1.union s, h :: p.2)

/-- Reads a POSIX class `[:name:]` or `[:^name:]` after its opening `[:`, if there is one, and
whether it is negated. -/
def posixClass (cs : List Char) : Option (Bool × CharSet × List Char) :=
  let (negated, body) := match cs with
    | '^' :: r => (true, r)
    | r => (false, r)
  let name := body.takeWhile Char.isAlpha
  match body.drop name.length with
  | ':' :: ']' :: rest =>
    (Classes.posix? (String.ofList name)).map (fun s => (negated, s, rest))
  | _ => none

/-- Whether a class item is followed by a range's `-`: a hyphen, then something other than the
class's end or a second hyphen. -/
def startsRange (flags : Flags) (cs : List Char) : Bool :=
  match skipBlanks flags cs with
  | '-' :: rest =>
    match skipBlanks flags rest with
    | ']' :: _ => false
    | '-' :: _ => false
    | _ => true
  | _ => false

/-- Reads one end of a class range: a literal character or an escaped one. -/
def rangeEnd (flags : Flags) : List Char → Except PatternError (Nat × List Char)
  | '\\' :: rest =>
    match escape flags rest with
    | .ok (.lit n, r) => .ok (n, r)
    | .ok _ => .error .badRange
    | .error e => .error e
  | c :: rest => .ok (c.toNat, rest)
  | [] => .error .unclosedClass

/-- What reading a class gives: its code points, its height and the rest of the pattern. -/
abbrev ClassResult := CharSet × Nat × List Char

mutual

/-- Reads the items of a bracket class up to its `]`. -/
def classItems (fuel : Nat) (flags : Flags) (cs : List Char) (current : ClassPart)
    (pending : Option (CharSet × Nat × ClassOp)) : Except PatternError ClassResult :=
  match fuel with
  | 0 => .error .tooDeep
  | fuel + 1 =>
    let cs := skipBlanks flags cs
    let operator (op : ClassOp) (rest : List Char) :=
      let (s, h) := combine flags pending current
      classItems fuel flags rest (CharSet.empty, []) (some (s, h, op))
    match cs with
    | [] => .error .unclosedClass
    | ']' :: rest =>
      let (s, h) := combine flags pending current
      .ok (s, h, rest)
    | '[' :: ':' :: rest =>
      match posixClass rest with
      | some (negated, s, rest') =>
        match finishClass flags negated s with
        | .ok s' => classItems fuel flags rest' (current.add s' 0) pending
        | .error e => .error e
      | none =>
        match bracket fuel flags (':' :: rest) with
        | .ok (s, h, rest') => classItems fuel flags rest' (current.add s h) pending
        | .error e => .error e
    | '[' :: rest =>
      match bracket fuel flags rest with
      | .ok (s, h, rest') => classItems fuel flags rest' (current.add s h) pending
      | .error e => .error e
    | '&' :: '&' :: rest => operator .inter rest
    | '-' :: '-' :: rest => operator .diff rest
    | '~' :: '~' :: rest => operator .symm rest
    | '\\' :: rest =>
      match escape flags rest with
      | .ok (.lit n, rest') => literalItem fuel flags n rest' current pending
      | .ok (.cls s, rest') =>
        if startsRange flags rest' then .error .badRange
        else classItems fuel flags rest' (current.add s 0) pending
      | .ok (.assert _, _) => .error .badEscape
      | .error e => .error e
    | c :: rest => literalItem fuel flags c.toNat rest current pending

/-- Adds a literal to a class, or the range it starts when `-` and another end follow. -/
def literalItem (fuel : Nat) (flags : Flags) (lo : Nat) (cs : List Char) (current : ClassPart)
    (pending : Option (CharSet × Nat × ClassOp)) : Except PatternError ClassResult :=
  match fuel with
  | 0 => .error .tooDeep
  | fuel + 1 =>
    if !flags.unicode && lo ≥ 0x80 then .error .unicodeDisabled else
    let single := current.add (CharSet.single lo) 0
    if !startsRange flags cs then classItems fuel flags cs single pending
    else
      match skipBlanks flags cs with
      | '-' :: rest =>
        match rangeEnd flags (skipBlanks flags rest) with
        | .ok (hi, rest'') =>
          if !flags.unicode && hi ≥ 0x80 then .error .unicodeDisabled
          else if lo ≤ hi then
            classItems fuel flags rest'' (current.add (CharSet.range lo hi) 0) pending
          else .error .badRange
        | .error e => .error e
      | _ => classItems fuel flags cs single pending

/-- Reads a bracket class after its `[`, with negation and case applied. Hyphens at its start,
or else a `]` there, are literal characters. -/
def bracket (fuel : Nat) (flags : Flags) (cs : List Char) : Except PatternError ClassResult :=
  match fuel with
  | 0 => .error .tooDeep
  | fuel + 1 =>
    let (negated, body) := match skipBlanks flags cs with
      | '^' :: r => (true, skipBlanks flags r)
      | r => (false, r)
    let (dashes, body) := takeSpaced flags (· == '-') (body.length + 1) body
    let (opening, body) := match dashes, body with
      | [], ']' :: r => ([']'], skipBlanks flags r)
      | _, r => (dashes, r)
    let start := opening.foldl (fun (p : ClassPart) c => p.add (CharSet.single c.toNat) 0)
      (CharSet.empty, [])
    match classItems fuel flags body start none with
    | .ok (s, h, rest) => (finishClass flags negated s).map (·, h + 1, rest)
    | .error e => .error e

end

/-- The result of reading a sequence: its items in reverse, its height, the flags in force at
its end, the rest of the pattern and the group names seen. -/
abbrev SeqResult := List Node × Nat × Flags × List Char × List String

/-- The result of reading alternatives or a group: the pattern, its height, the rest and the
group names seen. -/
abbrev GroupResult := Node × Nat × List Char × List String

mutual

/-- Reads the alternatives of a group or of the whole pattern, up to the closing `)` (left in
place) or the end. -/
def branches (fuel : Nat) (flags : Flags) (names : List String) (cs : List Char) (inGroup : Bool)
    (done : List (Node × Nat)) : Except PatternError GroupResult :=
  match fuel with
  | 0 => .error .tooDeep
  | fuel + 1 =>
    match sequence fuel flags names cs [] [] .nothing with
    | .error e => .error e
    | .ok (items, h, flags', rest, names') =>
      let all := (Node.seqOf items.reverse, h) :: done
      let finish := (Node.altOf (all.map Prod.fst).reverse, siblingsHeight (all.map Prod.snd))
      match rest with
      | '|' :: more => branches fuel flags' names' more inGroup all
      | ')' :: _ =>
        if inGroup then .ok (finish.1, finish.2, rest, names')
        else .error .unopenedGroup
      | _ =>
        if inGroup then .error .unclosedGroup
        else .ok (finish.1, finish.2, rest, names')

/-- Reads a group's alternatives and its closing `)`. -/
def groupBody (fuel : Nat) (flags : Flags) (names : List String) (cs : List Char) :
    Except PatternError GroupResult :=
  match fuel with
  | 0 => .error .tooDeep
  | fuel + 1 =>
    match branches fuel flags names cs true [] with
    | .ok (node, h, ')' :: rest, names') => .ok (node, h + 1, rest, names')
    | .ok _ => .error .unclosedGroup
    | .error e => .error e

/-- Reads the items of one alternative, with repetitions applied to the item before them; the
heights of the items, a flag setting counting as an item, are kept in the same order. -/
def sequence (fuel : Nat) (flags : Flags) (names : List String) (cs : List Char)
    (items : List Node) (heights : List Nat) (last : LastItem) : Except PatternError SeqResult :=
  match fuel with
  | 0 => .error .tooDeep
  | fuel + 1 =>
    let cs := skipBlanks flags cs
    let push (n : Node) (h : Nat) (rest : List Char) (names' : List String) :=
      sequence fuel flags names' rest (n :: items) (h :: heights) .node
    let leaf (n : Node) (rest : List Char) := push n 0 rest names
    let repeatLast (lo : Nat) (hi : Option Nat) (rest : List Char) :
        Except PatternError SeqResult :=
      match last, items, heights with
      | .node, n :: others, h :: hs =>
        let (lazy, rest') := match rest with
          | '?' :: r => (true, r)
          | r => (false, r)
        let greedy := lazy == flags.swapGreed
        sequence fuel flags names rest' (.rep n lo hi greedy :: others) ((h + 1) :: hs) .node
      | _, _, _ => .error .missingRepetition
    let done (rest : List Char) : Except PatternError SeqResult :=
      .ok (items, siblingsHeight heights, flags, rest, names)
    match cs with
    | [] => done []
    | '|' :: _ => done cs
    | ')' :: _ => done cs
    | '*' :: rest => repeatLast 0 none rest
    | '+' :: rest => repeatLast 1 none rest
    | '?' :: rest => repeatLast 0 (some 1) rest
    | '{' :: rest =>
      match counted flags rest with
      | .ok (lo, hi, rest') => repeatLast lo hi (skipBlanks flags rest')
      | .error e => .error e
    | '(' :: rest =>
      match skipBlanks flags rest with
      | '?' :: 'P' :: '<' :: more => named fuel flags names items heights more
      | '?' :: '<' :: more => named fuel flags names items heights more
      | '?' :: more =>
        match flagList flags more false false [] with
        | .error e => .error e
        | .ok (flags', true, rest') =>
          match groupBody fuel flags' names rest' with
          | .ok (node, h, rest'', names') => push (.group false node) h rest'' names'
          | .error e => .error e
        | .ok (flags', false, rest') => sequence fuel flags' names rest' items (0 :: heights) .flags
      | more =>
        match groupBody fuel flags names more with
        | .ok (node, h, rest', names') => push (.group true node) h rest' names'
        | .error e => .error e
    | '[' :: rest =>
      match bracket fuel flags rest with
      | .ok (s, h, rest') => push (.set s) h rest' names
      | .error e => .error e
    | '.' :: rest =>
      if !flags.unicode then .error .invalidUtf8 else
      let s := if flags.dotAll then CharSet.full
        else if flags.crlf then (CharSet.union (CharSet.single 10) (CharSet.single 13)).complement
        else (CharSet.single 10).complement
      leaf (.set s) rest
    | '^' :: rest =>
      leaf (.assert (if !flags.multiLine then .textStart
        else if flags.crlf then .lineStartCrlf else .lineStart)) rest
    | '$' :: rest =>
      leaf (.assert (if !flags.multiLine then .textEnd
        else if flags.crlf then .lineEndCrlf else .lineEnd)) rest
    | '\\' :: rest =>
      match escape flags rest with
      | .ok (.lit n, rest') => leaf (.set (literalSet flags n)) rest'
      | .ok (.cls s, rest') => leaf (.set s) rest'
      | .ok (.assert a, rest') => leaf (.assert a) rest'
      | .error e => .error e
    | c :: rest => leaf (.set (literalSet flags c.toNat)) rest

/-- Reads a named group after `(?P<` or `(?<`. -/
def named (fuel : Nat) (flags : Flags) (names : List String) (items : List Node)
    (heights : List Nat) (cs : List Char) : Except PatternError SeqResult :=
  match fuel with
  | 0 => .error .tooDeep
  | fuel + 1 =>
    match groupName cs with
    | .error e => .error e
    | .ok (name, rest) =>
      if names.contains name then .error .duplicateGroupName
      else
        match groupBody fuel flags (name :: names) rest with
        | .ok (node, h, rest', names') =>
          sequence fuel flags names' rest' (.group true node :: items) (h :: heights) .node
        | .error e => .error e

end

/-- Reads a pattern; one nested deeper than the limit is refused. -/
def Node.parse (s : String) : Except PatternError Node :=
  let cs := s.toList
  match branches (8 * cs.length + 16) {} [] cs false [] with
  | .ok (node, h, [], _) => if h > nestLimit then .error .tooDeep else .ok node
  | .ok _ => .error .unopenedGroup
  | .error e => .error e

end SerialHub.Pattern
