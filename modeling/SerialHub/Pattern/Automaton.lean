import SerialHub.Pattern.Shape
import SerialHub.Pattern.Parser
import SerialHub.Pattern.Match
import Std.Data.HashMap

/-!
# The size of a pattern's automata

A pattern is run by two Thompson automata over the UTF-8 bytes of its text, built from its normal
form: a forward one that records its groups and a backward one that does not. A pattern whose
automaton in either direction would take more than ten mebibytes is refused; the size is counted
state by state as the automaton is built, with classes cut into UTF-8 byte sequences that share
states through tables of fixed size, and building stops as soon as the limit is passed.
-/

namespace SerialHub.Pattern

/-- The most memory an automaton may take: ten mebibytes. -/
def automatonLimit : Nat := 10 * Nat.pow 2 20

/-- The memory of one state. -/
def stateSize : Nat := 32

/-- The memory of one byte range of a state with a list of ranges. -/
def rangeSize : Nat := 8

/-- The memory of one branch of a fork. -/
def branchSize : Nat := 4

/-- An automaton being built, as far as its size goes: how many states it has and the memory
they take beyond their own size. -/
structure Build where
  states : Nat := 0
  extra : Nat := 0
  deriving Repr, Inhabited

/-- The memory of an automaton being built. -/
def Build.memory (b : Build) : Nat := stateSize * b.states + b.extra

/-- A step of building, which fails once the automaton has grown past the limit. -/
abbrev Grow := StateT Build Option

/-- Adds `states` states taking `extra` bytes beyond their own size; fails past the limit. -/
def grow (states extra : Nat) : Grow Unit := do
  let b ← get
  let b' : Build := ⟨b.states + states, b.extra + extra⟩
  if b'.memory > automatonLimit then failure else set b'

/-- Adds one state taking `extra` bytes beyond its own size, and gives its number. -/
def addState (extra : Nat) : Grow Nat := do
  let b ← get
  grow 1 extra
  pure b.states

/-- Adds a branch to a fork. -/
def addBranch : Grow Unit := grow 0 branchSize

/-- Joins the exit of a piece to the state after it: an exit that is a fork gains a branch. -/
def joinExit (exitIsFork : Bool) : Grow Unit :=
  if exitIsFork then addBranch else pure ()

/-! ## Byte sequences of classes -/

/-- The bytes of a code point in UTF-8. -/
def utf8Bytes (c : Nat) : List Nat :=
  if c < 0x80 then [c]
  else if c < 0x800 then [0xC0 + c / 64, 0x80 + c % 64]
  else if c < 0x10000 then [0xE0 + c / 4096, 0x80 + c / 64 % 64, 0x80 + c % 64]
  else [0xF0 + c / 262144, 0x80 + c / 4096 % 64, 0x80 + c / 64 % 64, 0x80 + c % 64]

/-- Where a range of code points of one UTF-8 length must be cut so that each part varies
independently in every byte: the last code point of the first part, at the first block size of
6, 12 or 18 bits that the range crosses without starting or ending on a block boundary. -/
def blockSplit (lo hi : Nat) : Option Nat :=
  [64, 4096, 262144].findSome? (fun u =>
    if lo / u == hi / u then none
    else if lo % u != 0 then some (lo / u * u + u - 1)
    else if hi % u != u - 1 then some (hi / u * u - 1)
    else none)

/-- The byte range sequences of the UTF-8 encodings of the code points from `lo` to `hi`, in
increasing order: the range is cut around the surrogates, then where the length of the encoding
changes, then at block boundaries, until each part's encodings are all byte strings between those
of its ends. The fuel bounds the depth of cutting, which is at most six. -/
def utf8Sequences : Nat → Nat → Nat → List (List (Nat × Nat))
  | 0, _, _ => []
  | fuel + 1, lo, hi =>
    if lo < 0xE000 && hi > 0xD7FF then utf8Sequences fuel lo 0xD7FF ++ utf8Sequences fuel 0xE000 hi
    else if hi < lo then []
    else
      match [0x7F, 0x7FF, 0xFFFF].find? (fun m => lo ≤ m && m < hi) with
      | some m => utf8Sequences fuel lo m ++ utf8Sequences fuel (m + 1) hi
      | none =>
        if hi ≤ 0x7F then [[(lo, hi)]]
        else
          match blockSplit lo hi with
          | some m => utf8Sequences fuel lo m ++ utf8Sequences fuel (m + 1) hi
          | none => [(utf8Bytes lo).zip (utf8Bytes hi)]

/-- The byte range sequences of a class, in order. -/
def classSequences (ranges : List (Nat × Nat)) : List (List (Nat × Nat)) :=
  ranges.flatMap (fun r => utf8Sequences 16 r.1 r.2)

/-- One step of the 64-bit FNV-1a hash. -/
def fnvStep (h : UInt64) (x : Nat) : UInt64 := (h ^^^ x.toUInt64) * 1099511628211

/-- The starting value of the 64-bit FNV-1a hash. -/
def fnvBasis : UInt64 := 14695981039346656037

/-! ## Classes read forwards -/

/-- A transition of a byte trie: a byte range and the state it leads to. -/
abbrev Transition := Nat × Nat × Nat

/-- The hash of a list of transitions. -/
def transitionsHash (ts : Array Transition) : Nat :=
  (ts.foldl (fun h t => fnvStep (fnvStep (fnvStep h t.1) t.2.1) t.2.2) fnvBasis).toNat

/-- The number of slots of the table of shared trie states. -/
def trieSlots : Nat := 10000

/-- The table of shared trie states: by slot, the transitions of the state last put there and
its number. -/
abbrev TrieTable := Std.HashMap Nat (Array Transition × Nat)

/-- A state of the trie still being built: its fixed transitions and the byte range of its last
transition, whose target is not known yet. -/
structure OpenState where
  fixed : Array Transition := #[]
  pending : Option (Nat × Nat) := none
  deriving Inhabited

/-- The transitions of an open state once its pending range leads to `next`. -/
def OpenState.close (s : OpenState) (next : Nat) : Array Transition :=
  match s.pending with
  | some (lo, hi) => s.fixed.push (lo, hi, next)
  | none => s.fixed

/-- The state with given transitions: the one in its slot if that has the same transitions,
else a new state, which takes the slot. -/
def shareState (table : TrieTable) (ts : Array Transition) : Grow (Nat × TrieTable) := do
  let slot := transitionsHash ts % trieSlots
  match table[slot]? with
  | some (key, id) =>
    if key == ts then pure (id, table)
    else
      let id ← addState (rangeSize * ts.size)
      pure (id, table.insert slot (ts, id))
  | none =>
    let id ← addState (rangeSize * ts.size)
    pure (id, table.insert slot (ts, id))

/-- Fixes the open states deeper than `keep`, the deepest first, each the target of the pending
range of the one above it, the deepest leading to `next`; then the pending range of the open
state at `keep` leads to the last of them. The fuel is the number of open states. -/
def closeAbove (keep : Nat) : Nat → Array OpenState → TrieTable → Nat →
    Grow (Array OpenState × TrieTable)
  | fuel + 1, stack, table, next =>
    if keep + 1 < stack.size then do
      let (id, table) ← shareState table (stack.back!.close next)
      closeAbove keep fuel stack.pop table id
    else pure (stack.modify (stack.size - 1) (fun s => ⟨s.close next, none⟩), table)
  | 0, stack, table, next =>
    pure (stack.modify (stack.size - 1) (fun s => ⟨s.close next, none⟩), table)

/-- How many leading byte ranges of a sequence are the pending ranges of the open states, from
the root down. -/
def sharedDepth (stack : Array OpenState) (seq : List (Nat × Nat)) : Nat :=
  ((seq.zip stack.toList).takeWhile (fun p => p.2.pending == some p.1)).length

/-- Adds a sequence to the trie: the open states below its shared start are fixed, and its other
ranges become pending ranges of new open states. -/
def addSequence (target : Nat) (acc : Array OpenState × TrieTable) (seq : List (Nat × Nat)) :
    Grow (Array OpenState × TrieTable) := do
  let depth := sharedDepth acc.1 seq
  let (stack, table) ← closeAbove depth (acc.1.size + 1) acc.1 acc.2 target
  match seq.drop depth with
  | [] => pure (stack, table)
  | r :: more =>
    let stack := stack.modify (stack.size - 1) (fun s => { s with pending := some r })
    pure (more.foldl (fun st r' => st.push { pending := some r' }) stack, table)

/-- Builds a class read forwards: an exit state, then the shared states of the trie of its
sequences, the root last. -/
def forwardClass (seqs : List (List (Nat × Nat))) : Grow Bool := do
  let target ← addState 0
  let (stack, table) ← seqs.foldlM (addSequence target) (#[({} : OpenState)], {})
  let (stack, table) ← closeAbove 0 (stack.size + 1) stack table target
  let _ ← shareState table (stack[0]?.getD ({} : OpenState)).fixed
  pure false

/-! ## Classes read backwards -/

/-- The number of slots of the table of shared sequence starts. -/
def startSlots : Nat := 1000

/-- The table of shared sequence starts: by slot, the state a range was entered from, the range,
and the state it leads to. -/
abbrev StartTable := Std.HashMap Nat ((Nat × Nat × Nat) × Nat)

/-- The slot of a range entered from a state. -/
def startSlot (source lo hi : Nat) : Nat :=
  (fnvStep (fnvStep (fnvStep fnvBasis source) lo) hi).toNat % startSlots

/-- Adds one sequence read backwards, from the state its first range is entered from; the fork
gains a branch to its last state. -/
def backwardSequence (table : StartTable) : List (Nat × Nat) → Nat → Grow StartTable
  | [], _ => do
    addBranch
    pure table
  | (lo, hi) :: more, source => do
    let slot := startSlot source lo hi
    match table[slot]? with
    | some (key, id) =>
      if key == (source, lo, hi) then backwardSequence table more id
      else
        let id ← addState 0
        backwardSequence (table.insert slot ((source, lo, hi), id)) more id
    | none =>
      let id ← addState 0
      backwardSequence (table.insert slot ((source, lo, hi), id)) more id

/-- Builds a class read backwards: a fork and an exit state, then the states of its sequences. -/
def backwardClass (seqs : List (List (Nat × Nat))) : Grow Bool := do
  let _ ← addState 0
  let exit ← addState 0
  let _ ← seqs.foldlM (fun table seq => backwardSequence table seq exit) {}
  pure false

/-- Builds a class. -/
def classPiece (reverse : Bool) (ranges : List (Nat × Nat)) : Grow Bool :=
  if ranges.all (fun r => r.2 < 0x80) then do
    grow 2 (rangeSize * ranges.length)
    pure false
  else
    let seqs := classSequences ranges
    if reverse then backwardClass seqs else forwardClass seqs

/-! ## Alternatives of literal strings -/

/-- A state of a trie of byte strings. Its transitions, each a byte and the state it leads to,
fall into groups: a string that ends here closes the group of transitions added since the last
one that did, so a string added later never shares a transition added before an earlier string
ended here. -/
structure TrieState where
  /-- The closed groups of transitions. -/
  closed : Array (Array (Nat × Nat)) := #[]
  /-- The transitions added since a string last ended here. -/
  active : Array (Nat × Nat) := #[]
  deriving Inhabited

/-- Whether a trie state has no transitions. -/
def TrieState.isLeaf (s : TrieState) : Bool :=
  s.active.isEmpty && s.closed.all (fun g => g.isEmpty)

/-- Marks the end of a string at a trie state: the open group is closed, unless the state is
already an end and has no transitions. -/
def TrieState.addEnd (s : TrieState) : TrieState :=
  if !s.closed.isEmpty && s.isLeaf then s else ⟨s.closed.push s.active, #[]⟩

/-- Adds a string's bytes from a trie state: each byte follows a transition of the open group,
or a new state. -/
def trieWalk : List Nat → Nat → Array TrieState → Array TrieState
  | [], here, states => states.modify here TrieState.addEnd
  | b :: bs, here, states =>
    match ((states[here]?.getD {}).active.find? (fun t => t.1 == b)) with
    | some (_, next) => trieWalk bs next states
    | none =>
      let next := states.size
      let states := states.modify here (fun s => { s with active := s.active.push (b, next) })
      trieWalk bs next (states.push {})

/-- The states of the automaton for one trie state with transitions, and their memory beyond
their own size: a state per nonempty group, with a byte range per transition when it has several,
and a fork with a branch to each of them and one to the exit before each group after the first. -/
def TrieState.cost (s : TrieState) : Nat × Nat :=
  let groups := (s.closed.push s.active).toList
  let filled := groups.filter (fun g => !g.isEmpty)
  let ranges := (filled.filter (fun g => g.size ≥ 2)).foldl (fun n g => n + g.size) 0
  (filled.length + 1, rangeSize * ranges + branchSize * (filled.length + groups.length - 1))

/-- Builds an alternative of literal strings, given by their code points, as a trie of their
bytes, read backwards when the automaton is: an exit state, and the states of every trie state
with transitions. -/
def literalTrie (reverse : Bool) (strings : List (List Nat)) : Grow Bool := do
  let bytes := strings.map (fun cs => cs.flatMap utf8Bytes)
  let trie := bytes.foldl (fun st bs => trieWalk (if reverse then bs.reverse else bs) 0 st)
    #[({} : TrieState)]
  let (states, extra) := trie.foldl
    (fun acc s => if s.isLeaf then acc else (acc.1 + s.cost.1, acc.2 + s.cost.2)) (1, 0)
  grow states extra
  pure false

/-- The code points of a literal string. -/
def Shape.literalChars? : Shape → Option (List Nat)
  | .literal cs => some cs
  | _ => none

/-! ## Pieces of the pattern -/

/-- Builds pieces one after another, each exit joined to the next piece. -/
def restPieces (exitIsFork : Bool) : List (Grow Bool) → Grow Bool
  | [] => pure exitIsFork
  | p :: ps => do
    let next ← p
    joinExit exitIsFork
    restPieces next ps

/-- Builds a sequence of pieces; no pieces are one empty state. -/
def sequencePieces : List (Grow Bool) → Grow Bool
  | [] => do
    grow 1 0
    pure false
  | p :: ps => do
    let fork ← p
    restPieces fork ps

/-- Builds the parts of an alternative after its first two, each a branch of the fork. -/
def moreAlternatives : List (Grow Bool) → Grow Unit
  | [] => pure ()
  | p :: ps => do
    let fork ← p
    addBranch
    joinExit fork
    moreAlternatives ps

/-- Builds an alternative: its first two parts, then the fork and exit, then the other parts. -/
def alternativePieces : List (Grow Bool) → Grow Bool
  | [] => do
    grow 1 0
    pure false
  | [p] => p
  | p :: q :: rest => do
    let a ← p
    let b ← q
    grow 2 0
    addBranch
    joinExit a
    addBranch
    joinExit b
    moreAlternatives rest
    pure false

/-- Builds `n` more copies of a body after one whose exit is given, each joined to the last. -/
def repeatMore (body : Grow Bool) : Nat → Bool → Grow Bool
  | 0, fork => pure fork
  | n + 1, fork => do
    let next ← body
    joinExit fork
    repeatMore body n next

/-- Builds `n` copies of a body in sequence; none are one empty state. -/
def repeatExactly (body : Grow Bool) : Nat → Grow Bool
  | 0 => do
    grow 1 0
    pure false
  | n + 1 => do
    let fork ← body
    repeatMore body n fork

/-- Builds `n` optional copies of a body after a piece whose exit is given: each behind a fork
with a branch to it and one to the common exit. -/
def repeatOptional (body : Grow Bool) : Nat → Bool → Grow Bool
  | 0, fork => do
    joinExit fork
    pure false
  | n + 1, fork => do
    grow 1 0
    let next ← body
    joinExit fork
    addBranch
    addBranch
    repeatOptional body n next

/-- Builds a repetition of a body whose shortest match has `bodyMin` bytes. -/
def repetitionPiece (body : Grow Bool) (bodyMin : Option Nat) (lo : Nat) (hi : Option Nat) :
    Grow Bool :=
  match lo, hi with
  | 0, some 1 => do
    grow 1 0
    let r ← body
    grow 1 0
    addBranch
    addBranch
    joinExit r
    pure false
  | 0, none =>
    if bodyMin.getD 0 > 0 then do
      grow 1 0
      let r ← body
      addBranch
      joinExit r
      pure true
    else do
      let r ← body
      grow 1 0
      joinExit r
      addBranch
      grow 2 0
      addBranch
      addBranch
      addBranch
      pure false
  | 1, none => do
    let r ← body
    grow 1 0
    joinExit r
    addBranch
    pure true
  | n + 2, none => do
    let pre ← repeatExactly body (n + 1)
    let last ← body
    grow 1 0
    joinExit pre
    joinExit last
    addBranch
    pure true
  | n, some m =>
    if n == m then repeatExactly body n
    else do
      let pre ← repeatExactly body n
      grow 1 0
      repeatOptional body (m - n) pre

/-- Builds a capturing group around a body read forwards. -/
def capturePiece (body : Grow Bool) : Grow Bool := do
  grow 1 0
  let r ← body
  grow 1 0
  joinExit r
  pure false

mutual

/-- Builds the automaton of a normal form in one direction; the result tells whether its exit
is a fork. -/
def Shape.build (reverse : Bool) : Shape → Grow Bool
  | .empty => do
    grow 1 0
    pure false
  | .literal cs => do
    grow (max 1 (utf8Length cs)) 0
    pure false
  | .cls rs => classPiece reverse rs
  | .look _ => do
    grow 1 0
    pure false
  | .capture b => if reverse then b.build reverse else capturePiece (b.build reverse)
  | .concat ps =>
    let pieces := Shape.buildAll reverse ps
    sequencePieces (if reverse then pieces.reverse else pieces)
  | .alt ps =>
    match ps.mapM Shape.literalChars? with
    | some strings@(_ :: _ :: _) => literalTrie reverse strings
    | _ => alternativePieces (Shape.buildAll reverse ps)
  | .rep b lo hi _ => repetitionPiece (b.build reverse) b.minLen lo hi

/-- Builds each of a list of normal forms. -/
def Shape.buildAll (reverse : Bool) : List Shape → List (Grow Bool)
  | [] => []
  | p :: ps => p.build reverse :: Shape.buildAll reverse ps

end

/-- A loop over any byte, in front of an automaton whose matches may start anywhere. -/
def anyBytePrefix : Grow Bool := do
  grow 1 0
  grow 2 rangeSize
  addBranch
  pure true

/-- Whether the automaton of a normal form in one direction fits within the limit. -/
def Shape.fits (reverse : Bool) (s : Shape) : Bool :=
  let anchored := if reverse then s.endAnchored else s.startAnchored
  let whole : Grow Unit := do
    let front ← if anchored then (do grow 1 0; pure false) else anyBytePrefix
    if reverse then
      let r ← s.build true
      grow 1 0
      joinExit r
    else
      grow 1 0
      let r ← s.build false
      grow 1 0
      joinExit r
      grow 1 0
    joinExit front
  (whole.run {}).isSome

/-- Whether both automata of a pattern fit within the limit. -/
def Node.fitsAutomata (n : Node) : Bool :=
  let s := n.shape
  s.fits false && s.fits true

/-- Reads a pattern and checks that its automata fit: a pattern that cannot be read, or whose
automata would be too large, is refused. -/
def Node.compile (text : String) : Except PatternError Node :=
  match Node.parse text with
  | .ok n => if n.fitsAutomata then .ok n else .error .tooLarge
  | .error e => .error e

/-- A pattern as a blacklist uses it: compiled, when it can be, to the test of whether it
matches somewhere in a text. -/
def searchTest (text : String) : Option (String → Bool) :=
  match Node.compile text with
  | .ok n => some n.matchesIn
  | .error _ => none

/-- The two-byte code points from the start of one block of 64 to the end of another are one
sequence: the lead bytes of those blocks, then any continuation byte. -/
theorem utf8Sequences_two_byte_blocks {fuel lo hi : Nat} (hlo : 0x80 ≤ lo) (hle : lo ≤ hi)
    (hhi : hi < 0x800) (hstart : lo % 64 = 0) (hend : hi % 64 = 63) :
    utf8Sequences (fuel + 1) lo hi = [[(0xC0 + lo / 64, 0xC0 + hi / 64), (0x80, 0xBF)]] := by
  -- no cut applies: no surrogates, one length of encoding, whole blocks of 64
  have hsur : (decide (lo < 0xE000) && decide (hi > 0xD7FF)) = false := by simp; omega
  have hlen : [0x7F, 0x7FF, 0xFFFF].find? (fun m => decide (lo ≤ m) && decide (m < hi)) = none := by
    simp; omega
  have hblock : blockSplit lo hi = none := by
    have h1 : lo / 4096 = hi / 4096 := by omega
    have h2 : lo / 262144 = hi / 262144 := by omega
    simp [blockSplit, List.findSome?, hstart, hend, h1, h2]
  have hordered : ¬ hi < lo := by omega
  have hwide : ¬ hi ≤ 0x7F := by omega
  simp [utf8Sequences, hsur, hordered, hlen, hwide, hblock, utf8Bytes, show ¬ lo < 0x80 by omega,
    show ¬ hi < 0x80 by omega, hhi, show lo < 0x800 by omega, hstart, hend]

example : utf8Sequences 16 0x80 0x7FF = [[(0xC2, 0xDF), (0x80, 0xBF)]] := by decide

end SerialHub.Pattern
