import SerialHub.Terminal.Buffer

/-!
# What an output buffer retains

Of the non-empty pieces appended since a buffer was last emptied, it holds exactly the longest run
of newest pieces that fits its capacity, since eviction drops whole chunks from the front and a run
that fits still fits without its oldest piece. Its running count is the number of bytes held, so
the checked subtraction of eviction never fails. Main statement: `play_keeps_longest_fit`.
-/

namespace SerialHub.Terminal.OutputBuffer

/-- The number of bytes a list of chunks holds. -/
def held : List (List UInt8) → Nat
  | [] => 0
  | c :: rest => c.length + held rest

@[simp] theorem held_nil : held [] = 0 := rfl

@[simp] theorem held_cons (c : List UInt8) (rest : List (List UInt8)) :
    held (c :: rest) = c.length + held rest := rfl

@[simp] theorem held_append (l₁ l₂ : List (List UInt8)) : held (l₁ ++ l₂) = held l₁ + held l₂ := by
  induction l₁ with
  | nil => simp
  | cons c rest ih => simp [ih, Nat.add_assoc]

/-- The eviction with its subtraction checked, as a build with overflow checks runs it: it fails
where the length of a dropped chunk exceeds the count it is taken off. -/
def evictChecked (capacity : Nat) : List (List UInt8) → Nat → Option (List (List UInt8) × Nat)
  | [], total => some ([], total)
  | c :: rest, total =>
    if total > capacity then
      if c.length ≤ total then evictChecked capacity rest (total - c.length) else none
    else some (c :: rest, total)

/-- `kept` is the longest suffix of `pieces` whose bytes fit in `capacity`: it is what is left
after dropping some `k` oldest pieces, it fits, and dropping fewer would not fit. -/
def LongestFit (capacity : Nat) (pieces kept : List (List UInt8)) : Prop :=
  ∃ k, kept = pieces.drop k ∧ held kept ≤ capacity ∧ ∀ j < k, capacity < held (pieces.drop j)

/-! ## The eviction -/

/-- Counting from the bytes held, the eviction drops the fewest oldest chunks that bring the
bytes held within the capacity, and its count stays the bytes held. -/
theorem evict_drops_fewest (capacity : Nat) (chunks : List (List UInt8)) :
    ∃ m, evict capacity chunks (held chunks) = (chunks.drop m, held (chunks.drop m)) ∧
      held (chunks.drop m) ≤ capacity ∧ ∀ j < m, capacity < held (chunks.drop j) := by
  induction chunks with
  | nil => exact ⟨0, rfl, Nat.zero_le _, fun j hj => absurd hj (Nat.not_lt_zero j)⟩
  | cons c rest ih =>
    by_cases hover : held (c :: rest) > capacity
    · -- the oldest chunk goes, and the count loses exactly its length
      obtain ⟨m, hevict, hfit, hfewest⟩ := ih
      have hcount : held (c :: rest) - c.length = held rest := by simp
      refine ⟨m + 1, ?_, hfit, ?_⟩
      · rw [evict, if_pos hover, hcount, hevict]
        rfl
      · intro j hj
        cases j with
        | zero => exact hover
        | succ j => exact hfewest j (by omega)
    · exact ⟨0, by rw [evict, if_neg hover]; rfl, by rw [List.drop_zero]; omega,
        fun j hj => absurd hj (Nat.not_lt_zero j)⟩

/-- Counting from the bytes held, no chunk the eviction drops is longer than the count it is
taken off. -/
theorem evictChecked_held (capacity : Nat) (chunks : List (List UInt8)) :
    evictChecked capacity chunks (held chunks) = some (evict capacity chunks (held chunks)) := by
  induction chunks with
  | nil => rfl
  | cons c rest ih =>
    have hcount : held (c :: rest) - c.length = held rest := by simp
    have hwithin : c.length ≤ held (c :: rest) := by simp
    by_cases hover : held (c :: rest) > capacity
    · rw [evictChecked, evict, if_pos hover, if_pos hover, if_pos hwithin, hcount, ih]
    · rw [evictChecked, evict, if_neg hover, if_neg hover]

/-- A longest fitting suffix drops no more pieces than there are. -/
theorem LongestFit.le_length {capacity : Nat} {pieces : List (List UInt8)} {k : Nat}
    (hfewest : ∀ j < k, capacity < held (pieces.drop j)) : k ≤ pieces.length := by
  rcases Nat.lt_or_ge pieces.length k with hk | hk
  · have h := hfewest pieces.length hk
    simp at h
  · exact hk

/-- A newest piece that does not fit alone leaves nothing that fits but the empty suffix. -/
theorem LongestFit.eq_nil_of_last {capacity : Nat} {pieces kept : List (List UInt8)}
    (h : LongestFit capacity pieces kept) {d : List UInt8} (hlast : pieces.getLast? = some d)
    (hbig : capacity < d.length) : kept = [] := by
  obtain ⟨k, rfl, hfit, -⟩ := h
  rcases Nat.lt_or_ge k pieces.length with hk | hk
  · -- a non-empty suffix ends with the newest piece
    have hlast' : (pieces.drop k).getLast? = some d := by
      rw [List.getLast?_drop, if_neg (by omega), hlast]
    obtain ⟨front, hfront⟩ := List.getLast?_eq_some_iff.mp hlast'
    rw [hfront, held_append] at hfit
    simp at hfit
    omega
  · exact List.drop_eq_nil_of_le hk

/-! ## Operations and what they keep -/

/-- Something done to an output buffer. -/
inductive Op where
  | append (data : List UInt8)
  | read (clearAfter : Bool)
  | clear
  deriving Repr, DecidableEq

namespace Op

/-- The buffer after an operation. -/
def run : Op → OutputBuffer → OutputBuffer
  | .append data, b => b.append data
  | .read clearAfter, b => (b.read clearAfter).2
  | .clear, b => b.clear

/-- The non-empty pieces appended since the buffer was last emptied, after an operation. -/
def since : Op → List (List UInt8) → List (List UInt8)
  | .append data, pieces => if data.isEmpty then pieces else pieces ++ [data]
  | .read clearAfter, pieces => if clearAfter then [] else pieces
  | .clear, _ => []

end Op

/-- The buffer after a sequence of operations. -/
def play (b : OutputBuffer) (ops : List Op) : OutputBuffer :=
  ops.foldl (fun b op => op.run b) b

/-- The non-empty pieces appended since the buffer was last emptied by a clear or a clearing
read, over a sequence of operations from an empty buffer. -/
def history (ops : List Op) : List (List UInt8) :=
  ops.foldl (fun pieces op => op.since pieces) []

/-- What a buffer keeps of the pieces appended since it was last emptied: its count is the
number of bytes it holds, and it holds the longest suffix of the pieces that fits. -/
structure Keeps (b : OutputBuffer) (pieces : List (List UInt8)) : Prop where
  counted : b.total = held b.chunks
  longest : LongestFit b.capacity pieces b.chunks

/-- An empty buffer keeps nothing of no pieces. -/
theorem keeps_empty (capacity : Nat) : Keeps { capacity } [] :=
  ⟨rfl, ⟨0, rfl, Nat.zero_le _, fun j hj => absurd hj (Nat.not_lt_zero j)⟩⟩

@[simp] theorem capacity_append (b : OutputBuffer) (data : List UInt8) :
    (b.append data).capacity = b.capacity := by
  unfold append
  split <;> rfl

@[simp] theorem capacity_run (op : Op) (b : OutputBuffer) : (op.run b).capacity = b.capacity := by
  cases op with
  | append data => exact capacity_append b data
  | read clearAfter => cases clearAfter <;> rfl
  | clear => rfl

/-- An emptied buffer keeps nothing of no pieces. -/
theorem keeps_clear (b : OutputBuffer) : Keeps b.clear [] :=
  keeps_empty b.capacity

/-- Appending a non-empty piece to a buffer that keeps the longest fitting suffix of some pieces
keeps the longest fitting suffix of the pieces with the new one added. -/
theorem Keeps.append {b : OutputBuffer} {pieces : List (List UInt8)} (h : Keeps b pieces)
    {data : List UInt8} (hdata : data.isEmpty = false) : Keeps (b.append data) (pieces ++ [data]) := by
  obtain ⟨k, hkept, -, hfewer⟩ := h.longest
  have hk : k ≤ pieces.length := LongestFit.le_length hfewer
  have hcount : b.total + data.length = held (b.chunks ++ [data]) := by
    simp [h.counted]
  obtain ⟨m, hevict, hfit, hfewest⟩ := evict_drops_fewest b.capacity (b.chunks ++ [data])
  -- the chunks and the new piece are what is left of all pieces after dropping the same `k`
  have hshift : ∀ j, (pieces ++ [data]).drop (k + j) = (b.chunks ++ [data]).drop j := by
    intro j
    rw [← List.drop_drop, List.drop_append_of_le_length hk, hkept]
  have happ : b.append data =
      ⟨b.capacity, (b.chunks ++ [data]).drop m, held ((b.chunks ++ [data]).drop m)⟩ := by
    simp only [OutputBuffer.append, hdata, Bool.false_eq_true, if_false, hcount, hevict]
  rw [happ]
  refine ⟨rfl, k + m, (hshift m).symm, hfit, ?_⟩
  intro j hj
  show b.capacity < held ((pieces ++ [data]).drop j)
  by_cases hjk : j < k
  · -- a longer suffix already failed to fit before the piece came
    have hold := hfewer j hjk
    have hdrop : (pieces ++ [data]).drop j = pieces.drop j ++ [data] :=
      List.drop_append_of_le_length (by omega)
    rw [hdrop, held_append]
    omega
  · obtain ⟨j', rfl⟩ : ∃ j', j = k + j' := ⟨j - k, by omega⟩
    rw [hshift]
    exact hfewest j' (by omega)

/-- Every operation keeps the longest fitting suffix of the pieces appended since the buffer was
last emptied. -/
theorem Keeps.run {b : OutputBuffer} {pieces : List (List UInt8)} (h : Keeps b pieces) (op : Op) :
    Keeps (op.run b) (op.since pieces) := by
  cases op with
  | append data =>
    cases hdata : data.isEmpty
    · simpa [Op.run, Op.since, hdata] using h.append hdata
    · simpa [Op.run, Op.since, OutputBuffer.append, hdata] using h
  | read clearAfter =>
    cases clearAfter
    · exact h
    · exact keeps_clear b
  | clear => exact keeps_clear b

/-- Over a sequence of operations, the buffer keeps the longest fitting suffix of the pieces
appended since it was last emptied. -/
theorem Keeps.play {b : OutputBuffer} {pieces : List (List UInt8)} (h : Keeps b pieces)
    (ops : List Op) : Keeps (OutputBuffer.play b ops) (ops.foldl (fun ps op => op.since ps) pieces) := by
  induction ops generalizing b pieces with
  | nil => exact h
  | cons op rest ih => exact ih (h.run op)

@[simp] theorem capacity_play (b : OutputBuffer) (ops : List Op) :
    (OutputBuffer.play b ops).capacity = b.capacity := by
  induction ops generalizing b with
  | nil => rfl
  | cons op rest ih => exact (ih (op.run b)).trans (capacity_run op b)

/-- The contract of an output buffer. Take any capacity, zero included, and any sequence of
appends, reads and clears from an empty buffer, and the pieces appended since it was last
emptied. The buffer holds the longest suffix of those pieces that fits in the capacity, the
count of its chunks being that suffix's length, and nothing when the newest piece alone does
not fit. Its count is the number of bytes it holds and within the capacity, so the next
append's eviction never takes a chunk's length off a smaller count. A plain read gives the
bytes of that suffix in arrival order and changes nothing; a clearing read gives the same bytes
and leaves an empty buffer. -/
theorem play_keeps_longest_fit (capacity : Nat) (ops : List Op) :
    (∃ k, (play { capacity } ops).chunks = (history ops).drop k ∧
      held (play { capacity } ops).chunks ≤ capacity ∧
      (∀ j < k, capacity < held ((history ops).drop j)) ∧
      (play { capacity } ops).chunks.length = (history ops).length - k ∧
      ((play { capacity } ops).read false).1 = ((history ops).drop k).flatten) ∧
    (∀ d, (history ops).getLast? = some d → capacity < d.length →
      (play { capacity } ops).chunks = []) ∧
    (play { capacity } ops).total = held (play { capacity } ops).chunks ∧
    (play { capacity } ops).total ≤ capacity ∧
    (∀ data, evictChecked capacity ((play { capacity } ops).chunks ++ [data])
      ((play { capacity } ops).total + data.length) =
        some (evict capacity ((play { capacity } ops).chunks ++ [data])
          ((play { capacity } ops).total + data.length))) ∧
    ((play { capacity } ops).read false).2 = play { capacity } ops ∧
    ((play { capacity } ops).read true).1 = ((play { capacity } ops).read false).1 ∧
    ((play { capacity } ops).read true).2 = { capacity } := by
  have h : Keeps (play { capacity } ops) (history ops) := (keeps_empty capacity).play ops
  have hcap : (play { capacity } ops).capacity = capacity := capacity_play _ ops
  have hlongest := h.longest
  rw [hcap] at hlongest
  obtain ⟨k, hkept, hfit, hfewest⟩ := hlongest
  refine ⟨⟨k, hkept, hfit, hfewest, by rw [hkept, List.length_drop], ?_⟩, ?_, h.counted,
    h.counted ▸ hfit, ?_, rfl, rfl, ?_⟩
  · simp [OutputBuffer.read, OutputBuffer.bytes, hkept]
  · intro d hlast hbig
    exact LongestFit.eq_nil_of_last ⟨k, hkept, hfit, hfewest⟩ hlast hbig
  · intro data
    have hcount : (play { capacity } ops).total + data.length =
        held ((play { capacity } ops).chunks ++ [data]) := by
      simp [h.counted]
    rw [hcount]
    exact evictChecked_held capacity _
  · simp only [OutputBuffer.read, if_true, OutputBuffer.clear, hcap]

/-- A chunk larger than the capacity drops itself and everything before it. -/
example : (play { capacity := 4 } [.append [1, 2], .append [0, 1, 2, 3, 4], .append [5, 6, 7, 8]]).chunks =
    [[5, 6, 7, 8]] := by
  decide

end SerialHub.Terminal.OutputBuffer
