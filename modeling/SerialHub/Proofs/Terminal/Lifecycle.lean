import SerialHub.Terminal.Console
import SerialHub.Proofs.Registry.Steps

/-!
# The life of a terminal session

A console is changed by the calls of the terminal layer, by the registry's calls and reopenings,
and by the passes of the sessions' readers. Creating a session checks, in order, the line
ending, the buffer size, that the port is open and that it has no session, and otherwise adds
it active with an empty buffer. The active flag only goes one way: it becomes false only at a
pass of the session's reader whose read failed, and then stays false while the session exists.
Main statement: `session_lifecycle`.
-/

namespace SerialHub.Terminal

open SerialHub.Line
open SerialHub.Registry

namespace LineEnding

/-- A line ending is named by exactly its own name. -/
theorem ofUpper?_eq_some_iff (s : String) (e : LineEnding) : ofUpper? s = some e ↔ s = e.name := by
  unfold ofUpper?
  split <;> cases e <;> simp_all [name]

/-- A text names a line ending when, ASCII letters compared without regard to case, it is
`CR`, `LF` or `CRLF`. -/
def Names (s : String) : Prop :=
  Text.asciiUpper s = "CR" ∨ Text.asciiUpper s = "LF" ∨ Text.asciiUpper s = "CRLF"

/-- A line ending is read from a text that names one, and it is the one named. -/
theorem parse_of_names {s : String} (h : Names s) :
    ∃ e, parse s = .ok e ∧ e.name = Text.asciiUpper s := by
  have hsome : ∃ e, ofUpper? (Text.asciiUpper s) = some e := by
    rcases h with h | h | h
    · exact ⟨.cr, (ofUpper?_eq_some_iff _ _).mpr h⟩
    · exact ⟨.lf, (ofUpper?_eq_some_iff _ _).mpr h⟩
    · exact ⟨.crlf, (ofUpper?_eq_some_iff _ _).mpr h⟩
  obtain ⟨e, he⟩ := hsome
  exact ⟨e, by simp [parse, he], ((ofUpper?_eq_some_iff _ _).mp he).symm⟩

/-- A text that names no line ending is refused, and the refusal carries the text as given. -/
theorem parse_of_not_names {s : String} (h : ¬ Names s) :
    parse s = .error (.invalidLineEnding s) := by
  cases he : ofUpper? (Text.asciiUpper s) with
  | none => simp [parse, he]
  | some e =>
    -- what is read back names the line ending it was read as
    have hname := (ofUpper?_eq_some_iff _ _).mp he
    exact absurd (by cases e <;> simp_all [Names, name]) h

end LineEnding

namespace Console

variable {c : Console} {id : String}

/-! ## Sessions under the console's operations -/

/-- Whether a session is active, for the session of an id. -/
def activeOf (c : Console) (id : String) : Option Bool :=
  (c.session? id).map Session.active

/-- Whether the read a reader pass makes on a port fails. -/
def ReadFails (c : Console) (port : String) : Prop :=
  (c.registry.readData port none (some c.readTimeoutMs)).1.isOk = false

instance (c : Console) (port : String) : Decidable (c.ReadFails port) :=
  inferInstanceAs (Decidable (_ = false))

theorem session?_modifySession (c : Console) (id id' : String) (f : Session → Session) :
    (c.modifySession id f).session? id' = if id' = id then (c.session? id).map f else c.session? id' :=
  Keyed.lookup_modify id id' f c.sessions

/-- Changing a session without touching its flag keeps every session's flag. -/
theorem activeOf_modifySession (c : Console) (id id' : String) {f : Session → Session}
    (hf : ∀ s, (f s).active = s.active) : (c.modifySession id f).activeOf id' = c.activeOf id' := by
  simp only [activeOf, session?_modifySession]
  split
  · rename_i h
    subst h
    cases c.session? id' <;> simp [hf]
  · rfl

/-- A reader pass changes the flag of its own session only, and only to false when its read
fails. -/
theorem activeOf_readerPass (c : Console) (id id' : String) :
    (c.readerPass id).activeOf id' =
      if id' = id ∧ c.ReadFails id then (c.session? id).map (fun _ => false) else c.activeOf id' := by
  unfold readerPass
  generalize hread : c.registry.readData id none (some c.readTimeoutMs) = read
  obtain ⟨res, r⟩ := read
  cases res with
  | ok data =>
    have hnot : ¬ c.ReadFails id := by
      intro h
      rw [ReadFails, hread] at h
      cases h
    rw [if_neg (fun h => hnot h.2)]
    exact activeOf_modifySession { c with registry := r } id id' (fun _ => rfl)
  | error err =>
    have hfails : c.ReadFails id := by
      rw [ReadFails, hread]
      rfl
    simp only [activeOf, session?_modifySession]
    by_cases hid : id' = id
    · subst hid
      have hsame : ({ c with registry := r } : Console).session? id' = c.session? id' := rfl
      simp only [hfails, and_self, if_true, hsame]
      cases c.session? id' <;> rfl
    · simp only [hid, if_false]
      rfl

/-- Closing a session removes it and leaves the others. -/
theorem session?_close (hs : Keyed.Sorted c.sessions) (id id' : String) :
    (c.close id).2.session? id' = if id' = id then none else c.session? id' := by
  unfold close
  split
  · rename_i hnone
    split
    · rename_i h
      subst h
      exact hnone
    · rfl
  · show (Keyed.erase id c.sessions).lookup id' = _
    split
    · rename_i h
      subst h
      exact Keyed.lookup_erase_self id' hs
    · rename_i h
      exact Keyed.lookup_erase_of_ne h c.sessions

/-- Sending a command leaves every session's flag as it was: it may only echo into a buffer. -/
theorem activeOf_sendCommand (c : Console) (id command : String) (add : Bool) (id' : String) :
    (c.sendCommand id command add).2.activeOf id' = c.activeOf id' := by
  unfold sendCommand
  split
  · rfl
  · split
    · rfl
    · dsimp only
      generalize c.registry.send id _ = sent
      obtain ⟨res, r⟩ := sent
      cases res with
      | error e => rfl
      | ok n =>
        -- a local echo changes the buffer only
        dsimp only
        split
        · exact activeOf_modifySession _ id id' (fun _ => rfl)
        · rfl

/-- Reading output leaves every session's flag as it was. -/
theorem activeOf_readOutput (c : Console) (id : String) (clearAfter : Bool) (id' : String) :
    (c.readOutput id clearAfter).2.activeOf id' = c.activeOf id' := by
  unfold readOutput
  split
  · rfl
  · exact activeOf_modifySession _ id id' (fun _ => rfl)

/-- Clearing a buffer leaves every session's flag as it was. -/
theorem activeOf_clearBuffer (c : Console) (id id' : String) :
    (c.clearBuffer id).2.activeOf id' = c.activeOf id' := by
  unfold clearBuffer
  split
  · rfl
  · exact activeOf_modifySession _ id id' (fun _ => rfl)

/-! ## Creating a session -/

/-- A session as it is created: active, with an empty buffer of the configured size. -/
def fresh (config : SessionConfig) : Session :=
  ⟨config, { capacity := config.bufferSize }, true⟩

/-- Creating a session from a configuration, as checks in order: a buffer of no bytes is refused,
then a port that is not open, then a port that has a session; otherwise the fresh session is
added. -/
theorem createWithConfig_eq (c : Console) (port : String) (config : SessionConfig) :
    c.createWithConfig port config =
      if config.bufferSize = 0 then
        (.error (.invalidParam "buffer_size" "0" "must be greater than 0"), c)
      else if c.registry.entry? port = none then (.error (.portNotOpen port), c)
      else if c.session? port ≠ none then (.error (.sessionExists port), c)
      else (.ok (infoOf port (fresh config)),
        { c with sessions := Keyed.insert port (fresh config) c.sessions }) := by
  unfold createWithConfig
  by_cases hsize : config.bufferSize = 0
  · simp [hsize]
  · simp only [hsize, beq_iff_eq, if_false]
    cases he : c.registry.entry? port with
    | none => simp [Registry.status, he]
    | some e =>
      simp only [Registry.status, he, reduceCtorEq, if_false]
      cases hs : c.session? port with
      | some s => simp
      | none => rfl

/-- Creating a session: a line ending that is not named is refused with the text as given; then
a buffer of no bytes, then a port that is not open, then a port that has a session; each
refusal leaves the console as it was. Otherwise the session is added, active and with an empty
buffer of the asked size and the named line ending. -/
theorem create_outcome (c : Console) (port lineEnding : String) (localEcho : Bool) (n : Nat) :
    (¬ LineEnding.Names lineEnding →
      c.create port lineEnding localEcho n = (.error (.invalidLineEnding lineEnding), c)) ∧
    (LineEnding.Names lineEnding → n = 0 →
      c.create port lineEnding localEcho n =
        (.error (.invalidParam "buffer_size" "0" "must be greater than 0"), c)) ∧
    (LineEnding.Names lineEnding → 0 < n → c.registry.entry? port = none →
      c.create port lineEnding localEcho n = (.error (.portNotOpen port), c)) ∧
    (LineEnding.Names lineEnding → 0 < n → c.registry.entry? port ≠ none →
      c.session? port ≠ none →
      c.create port lineEnding localEcho n = (.error (.sessionExists port), c)) ∧
    (LineEnding.Names lineEnding → 0 < n → c.registry.entry? port ≠ none →
      c.session? port = none →
      ∃ ending, ending.name = Text.asciiUpper lineEnding ∧
        (fresh ⟨ending, localEcho, n⟩).active = true ∧
        (fresh ⟨ending, localEcho, n⟩).buffer = { capacity := n } ∧
        c.create port lineEnding localEcho n =
          (.ok (infoOf port (fresh ⟨ending, localEcho, n⟩)),
            { c with sessions := Keyed.insert port (fresh ⟨ending, localEcho, n⟩) c.sessions })) := by
  refine ⟨fun h => by simp [create, LineEnding.parse_of_not_names h], ?_, ?_, ?_, ?_⟩
  all_goals
    intro hnames
    obtain ⟨ending, hparse, hname⟩ := LineEnding.parse_of_names hnames
    have hcreate : c.create port lineEnding localEcho n =
        c.createWithConfig port ⟨ending, localEcho, n⟩ := by
      simp [create, hparse]
    rw [hcreate, createWithConfig_eq]
  · intro hn
    simp [hn]
  · intro hn he
    simp [Nat.pos_iff_ne_zero.mp hn, he]
  · intro hn he hs
    simp [Nat.pos_iff_ne_zero.mp hn, he, hs]
  · intro hn he hs
    exact ⟨ending, hname, rfl, rfl, by simp [Nat.pos_iff_ne_zero.mp hn, he, hs]⟩

/-- Creating a session either changes nothing, or adds the fresh session on a port that had
none. -/
theorem createWithConfig_cases (c : Console) (port : String) (config : SessionConfig) :
    (c.createWithConfig port config).2 = c ∨
      (c.session? port = none ∧ (c.createWithConfig port config).2 =
        { c with sessions := Keyed.insert port (fresh config) c.sessions }) := by
  rw [createWithConfig_eq]
  split
  · exact .inl rfl
  · split
    · exact .inl rfl
    · split
      · exact .inl rfl
      · rename_i hs
        exact .inr ⟨not_not.mp hs, rfl⟩

/-- Creating a session leaves the flags of the other sessions, and the new one is active. -/
theorem activeOf_createWithConfig (c : Console) (port : String) (config : SessionConfig)
    (id : String) :
    (c.createWithConfig port config).2.activeOf id = c.activeOf id ∨
      (id = port ∧ c.session? port = none ∧
        (c.createWithConfig port config).2.activeOf id = some true) := by
  rcases createWithConfig_cases c port config with hsame | ⟨hnone, hnew⟩
  · exact .inl (by rw [hsame])
  · have hadded : ({ c with sessions := Keyed.insert port (fresh config) c.sessions } :
        Console).session? id = if id = port then some (fresh config) else c.session? id :=
      Keyed.lookup_insert port id (fresh config) c.sessions
    rw [hnew]
    by_cases hid : id = port
    · subst hid
      exact .inr ⟨rfl, hnone, by rw [activeOf, hadded, if_pos rfl]; rfl⟩
    · exact .inl (by rw [activeOf, activeOf, hadded, if_neg hid])

/-! ## Moves -/

/-- Something that changes a console. -/
inductive Move where
  | create (port lineEnding : String) (localEcho : Bool) (bufferSize : Nat)
  | createWith (port : String) (config : SessionConfig)
  | close (id : String)
  | sendCommand (id command : String) (addLineEnding : Bool)
  | readOutput (id : String) (clearAfter : Bool)
  | clearBuffer (id : String)
  | shutdown
  | call (c : Call)
  | mark (port : String) (stale : Nat)
  | reconnect (port : String) (stale : Nat) (config : LineConfig)
  | reader (id : String)

namespace Move

/-- The console after a move, whatever it answered. -/
def run : Move → Console → Console
  | .create port le echo n, c => (c.create port le echo n).2
  | .createWith port config, c => (c.createWithConfig port config).2
  | .close id, c => (c.close id).2
  | .sendCommand id command add, c => (c.sendCommand id command add).2
  | .readOutput id clearAfter, c => (c.readOutput id clearAfter).2
  | .clearBuffer id, c => (c.clearBuffer id).2
  | .shutdown, c => c.shutdown
  | .call k, c => { c with registry := k.run c.registry }
  | .mark port stale, c => { c with registry := (c.registry.markReconnecting port stale).2 }
  | .reconnect port stale config, c => { c with registry := c.registry.reconnect port stale config }
  | .reader id, c => c.readerPass id

/-- A reader passes only while its session is active: a failed read ends it. -/
def Admissible : Move → Console → Prop
  | .reader id, c => c.activeOf id = some true
  | _, _ => True

/-- Whether a move is a pass of a session's reader, which reads the session's port. -/
def ReadsFor : Move → String → Prop
  | .reader id, port => id = port
  | _, _ => False

end Move

/-- Sessions are kept in increasing order of id, so each id has at most one. -/
theorem Move.sorted (m : Move) (hs : Keyed.Sorted c.sessions) : Keyed.Sorted (m.run c).sessions := by
  -- every move changes the sessions by an insertion, an erasure, a change of one value, or
  -- emptying them
  have hmodify : ∀ (c : Console) (id : String) (f : Session → Session),
      Keyed.Sorted c.sessions → Keyed.Sorted (c.modifySession id f).sessions :=
    fun c id f h => Keyed.sorted_modify id f h
  have hpass : ∀ (c : Console) (id : String), Keyed.Sorted c.sessions →
      Keyed.Sorted (c.readerPass id).sessions := by
    intro c id h
    unfold readerPass
    generalize c.registry.readData id none (some c.readTimeoutMs) = read
    obtain ⟨res, r⟩ := read
    cases res <;> exact hmodify _ _ _ h
  have hcreate : ∀ port config, Keyed.Sorted (c.createWithConfig port config).2.sessions := by
    intro port config
    rcases createWithConfig_cases c port config with hsame | ⟨-, hnew⟩
    · rw [hsame]
      exact hs
    · rw [hnew]
      exact Keyed.sorted_insert port _ hs
  cases m with
  | create port le echo n =>
    show Keyed.Sorted (Console.create c port le echo n).2.sessions
    unfold Console.create
    split
    · exact hs
    · exact hcreate _ _
  | createWith port config => exact hcreate port config
  | close id =>
    show Keyed.Sorted (Console.close c id).2.sessions
    unfold Console.close
    split
    · exact hs
    · exact Keyed.sorted_erase id hs
  | sendCommand id command add =>
    show Keyed.Sorted (Console.sendCommand c id command add).2.sessions
    unfold Console.sendCommand
    split
    · exact hs
    · split
      · exact hs
      · dsimp only
        generalize c.registry.send id _ = sent
        obtain ⟨res, r⟩ := sent
        cases res with
        | error e => exact hs
        | ok n =>
          dsimp only
          split
          · exact hmodify _ _ _ hs
          · exact hs
  | readOutput id clearAfter =>
    show Keyed.Sorted (Console.readOutput c id clearAfter).2.sessions
    unfold Console.readOutput
    split
    · exact hs
    · exact hmodify _ _ _ hs
  | clearBuffer id =>
    show Keyed.Sorted (Console.clearBuffer c id).2.sessions
    unfold Console.clearBuffer
    split
    · exact hs
    · exact hmodify _ _ _ hs
  | shutdown => exact Keyed.sorted_nil
  | call k => exact hs
  | mark port stale => exact hs
  | reconnect port stale config => exact hs
  | reader id => exact hpass c id hs

/-- A flag that a move leaves as it was neither comes back nor goes. -/
theorem flag_kept {before after : Option Bool} {P : Prop} (h : after = before) :
    (before = some false → after ≠ some true) ∧ (before ≠ some false → after = some false → P) := by
  subst h
  refine ⟨fun hfalse htrue => ?_, fun hnot hfalse => absurd hfalse hnot⟩
  rw [hfalse] at htrue
  cases htrue

/-- A session that did not exist before a move has no flag to bring back, and is inactive after
it only for a reason the move gives. -/
theorem flag_new {after : Option Bool} {P : Prop} (hP : after = some false → P) :
    (none = some false → after ≠ some true) ∧ (none ≠ some false → after = some false → P) :=
  ⟨fun h => (nomatch h), fun _ h => hP h⟩

/-- One move and the active flags. A flag that is false stays false; and a session that was
active, or is created by the move, is inactive after it only when the move read its port for
its reader and the read failed. -/
theorem Move.activeOf_step (m : Move) (hs : Keyed.Sorted c.sessions) (hm : m.Admissible c)
    (id : String) :
    (c.activeOf id = some false → (m.run c).activeOf id ≠ some true) ∧
    (c.activeOf id ≠ some false → (m.run c).activeOf id = some false →
      m.ReadsFor id ∧ c.ReadFails id) := by
  -- a creation on `port` either leaves the flag of `id` or makes `id` the new session
  have hcreated : ∀ port config,
      (m.run c).activeOf id = (c.createWithConfig port config).2.activeOf id →
      (c.activeOf id = some false → (m.run c).activeOf id ≠ some true) ∧
      (c.activeOf id ≠ some false → (m.run c).activeOf id = some false →
        m.ReadsFor id ∧ c.ReadFails id) := by
    intro port config hrun
    rw [hrun]
    rcases activeOf_createWithConfig c port config id with hsame | ⟨rfl, hnone, htrue⟩
    · exact flag_kept hsame
    · have hwas : c.activeOf id = none := by simp [activeOf, hnone]
      rw [hwas]
      refine flag_new (fun hfalse => ?_)
      rw [htrue] at hfalse
      cases hfalse
  cases m with
  | create port le echo n =>
    cases hparse : LineEnding.parse le with
    | error err =>
      -- a line ending that is not named is refused before anything is created
      exact flag_kept (by simp [Move.run, Console.create, hparse])
    | ok ending => exact hcreated port ⟨ending, echo, n⟩ (by simp [Move.run, Console.create, hparse])
  | createWith port config => exact hcreated port config rfl
  | close id' =>
    have hclose : ((Move.close id').run c).activeOf id = if id = id' then none else c.activeOf id := by
      simp only [Move.run, activeOf, session?_close hs]
      split <;> rfl
    by_cases hid : id = id'
    · rw [hclose, if_pos hid]
      exact ⟨fun _ h => (nomatch h), fun _ h => (nomatch h)⟩
    · exact flag_kept (by rw [hclose, if_neg hid])
  | sendCommand id' command add => exact flag_kept (activeOf_sendCommand c id' command add id)
  | readOutput id' clearAfter => exact flag_kept (activeOf_readOutput c id' clearAfter id)
  | clearBuffer id' => exact flag_kept (activeOf_clearBuffer c id' id)
  | shutdown => exact ⟨fun _ h => (nomatch h), fun _ h => (nomatch h)⟩
  | call k => exact flag_kept rfl
  | mark port stale => exact flag_kept rfl
  | reconnect port stale config => exact flag_kept rfl
  | reader id' =>
    have hpass := activeOf_readerPass c id' id
    by_cases hfail : id = id' ∧ c.ReadFails id'
    · obtain ⟨rfl, hfails⟩ := hfail
      refine ⟨fun hfalse => ?_, fun _ _ => ⟨rfl, hfails⟩⟩
      -- the reader passes only on an active session
      have hadm : c.activeOf id = some true := hm
      rw [hadm] at hfalse
      cases hfalse
    · rw [if_neg hfail] at hpass
      exact flag_kept hpass

/-! ## Runs -/

/-- The console after a sequence of moves. -/
def play : Console → List Move → Console
  | c, [] => c
  | c, m :: ms => play (m.run c) ms

/-- Every move of a sequence is admissible in the console it meets. -/
def Admits : Console → List Move → Prop
  | _, [] => True
  | c, m :: ms => m.Admissible c ∧ Admits (m.run c) ms

/-- The consoles that admissible moves reach from one with no sessions, over any registry. -/
inductive Reachable : Console → Prop
  | start (r : Registry) (t : Nat) : Reachable { registry := r, readTimeoutMs := t }
  | step {c : Console} (m : Move) : Reachable c → m.Admissible c → Reachable (m.run c)

theorem Reachable.sorted (h : Reachable c) : Keyed.Sorted c.sessions := by
  induction h with
  | start r t => exact Keyed.sorted_nil
  | step m _ _ ih => exact m.sorted ih

theorem Reachable.play (h : Reachable c) (ms : List Move) (hms : Admits c ms) :
    Reachable (c.play ms) := by
  induction ms generalizing c with
  | nil => exact h
  | cons m ms ih => exact ih (.step m h hms.1) hms.2

/-- Once a session is inactive it stays inactive for as long as it exists. -/
theorem play_inactive_stays (ms : List Move) (hs : Keyed.Sorted c.sessions) (hms : Admits c ms)
    (hfalse : c.activeOf id = some false)
    (hlive : ∀ k ≤ ms.length, (c.play (ms.take k)).activeOf id ≠ none) :
    (c.play ms).activeOf id = some false := by
  induction ms generalizing c with
  | nil => exact hfalse
  | cons m ms ih =>
    obtain ⟨hm, hrest⟩ := hms
    -- the move cannot bring the flag back, and the session is still there after it
    have hnot : (m.run c).activeOf id ≠ some true := (m.activeOf_step hs hm id).1 hfalse
    have hthere : (m.run c).activeOf id ≠ none := hlive 1 (by simp)
    have hnext : (m.run c).activeOf id = some false := by
      revert hnot hthere
      cases (m.run c).activeOf id with
      | none => simp
      | some b => cases b <;> simp
    exact ih (m.sorted hs) hrest hnext (fun k hk => hlive (k + 1) (by simpa using hk))

/-- A session that was not inactive and is inactive after a run was made so by one move of the
run, which read its port for its reader in a console where that read fails. -/
theorem play_inactive_cause (ms : List Move) (hs : Keyed.Sorted c.sessions) (hms : Admits c ms)
    (hwas : c.activeOf id ≠ some false) (hnow : (c.play ms).activeOf id = some false) :
    ∃ k m, ms[k]? = some m ∧ m.ReadsFor id ∧ (c.play (ms.take k)).ReadFails id ∧
      (c.play (ms.take k)).activeOf id ≠ some false ∧
      (c.play (ms.take (k + 1))).activeOf id = some false := by
  induction ms generalizing c with
  | nil => exact absurd hnow hwas
  | cons m ms ih =>
    obtain ⟨hm, hrest⟩ := hms
    by_cases hfirst : (m.run c).activeOf id = some false
    · -- the first move is the one that made it inactive
      obtain ⟨hreads, hfails⟩ := (m.activeOf_step hs hm id).2 hwas hfirst
      exact ⟨0, m, rfl, hreads, hfails, hwas, hfirst⟩
    · obtain ⟨k, m', hk, hreads, hfails, hbefore, hafter⟩ := ih (m.sorted hs) hrest hfirst hnow
      exact ⟨k + 1, m', hk, hreads, hfails, hbefore, hafter⟩

/-- The life of a session, over every run of moves from a console they reached. Creating a
session refuses, in this order, a line ending that is not named, a buffer of no bytes, a port
that is not open and a port that has a session, each refusal leaving the console as it was, and
otherwise adds the session active with an empty buffer of the asked size. Along the run, a
session that is inactive stays inactive for as long as it exists, and a session becomes inactive
only at a move that read its port for its reader where that read fails. -/
theorem session_lifecycle (c : Console) (hc : Reachable c) (ms : List Move) (hms : Admits c ms)
    (id port lineEnding : String) (localEcho : Bool) (n : Nat) :
    ((¬ LineEnding.Names lineEnding →
      c.create port lineEnding localEcho n = (.error (.invalidLineEnding lineEnding), c)) ∧
    (LineEnding.Names lineEnding → n = 0 →
      c.create port lineEnding localEcho n =
        (.error (.invalidParam "buffer_size" "0" "must be greater than 0"), c)) ∧
    (LineEnding.Names lineEnding → 0 < n → c.registry.entry? port = none →
      c.create port lineEnding localEcho n = (.error (.portNotOpen port), c)) ∧
    (LineEnding.Names lineEnding → 0 < n → c.registry.entry? port ≠ none →
      c.session? port ≠ none →
      c.create port lineEnding localEcho n = (.error (.sessionExists port), c)) ∧
    (LineEnding.Names lineEnding → 0 < n → c.registry.entry? port ≠ none →
      c.session? port = none →
      ∃ ending, ending.name = Text.asciiUpper lineEnding ∧
        (fresh ⟨ending, localEcho, n⟩).active = true ∧
        (fresh ⟨ending, localEcho, n⟩).buffer = { capacity := n } ∧
        c.create port lineEnding localEcho n =
          (.ok (infoOf port (fresh ⟨ending, localEcho, n⟩)),
            { c with sessions := Keyed.insert port (fresh ⟨ending, localEcho, n⟩) c.sessions }))) ∧
    (c.activeOf id = some false → (∀ k ≤ ms.length, (c.play (ms.take k)).activeOf id ≠ none) →
      (c.play ms).activeOf id = some false) ∧
    (c.activeOf id ≠ some false → (c.play ms).activeOf id = some false →
      ∃ k m, ms[k]? = some m ∧ m.ReadsFor id ∧ (c.play (ms.take k)).ReadFails id ∧
        (c.play (ms.take k)).activeOf id ≠ some false ∧
        (c.play (ms.take (k + 1))).activeOf id = some false) :=
  ⟨create_outcome c port lineEnding localEcho n,
    play_inactive_stays ms hc.sorted hms, play_inactive_cause ms hc.sorted hms⟩

/-- A session created on an open port, then read by its reader, in a console reached from no
sessions over a registry with that port open: it is active, so no failed read is behind it. -/
theorem session_lifecycle_create_then_read :
    let c : Console :=
      { registry := (Call.openPort "P1" {} false).run ((Call.addDevice "P1").run { bench := {} }) }
    let ms := [Move.create "P1" "crlf" false 16, Move.reader "P1"]
    Reachable c ∧ Admits c ms ∧ (c.play ms).activeOf "P1" = some true ∧
      ((c.play ms).activeOf "P1" = some false →
        ∃ k m, ms[k]? = some m ∧ m.ReadsFor "P1" ∧ (c.play (ms.take k)).ReadFails "P1") := by
  intro c ms
  have hc : Reachable c := .start _ 50
  have hcreated : ((Move.create "P1" "crlf" false 16).run c).activeOf "P1" = some true := by
    decide +kernel
  have hms : Admits c ms := ⟨trivial, hcreated, trivial⟩
  refine ⟨hc, hms, by decide +kernel, fun hnow => ?_⟩
  have hnone : c.activeOf "P1" ≠ some false := by decide +kernel
  obtain ⟨k, m, hk, hreads, hfails, -, -⟩ :=
    (session_lifecycle c hc ms hms "P1" "P1" "crlf" false 16).2.2 hnone hnow
  exact ⟨k, m, hk, hreads, hfails⟩

end Console

end SerialHub.Terminal
