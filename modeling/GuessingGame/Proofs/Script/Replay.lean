import GuessingGame.Proofs.Script.Calls

/-!
# One reading replayed with another host

A reading depends on its host only through the answers. So if another host, or the same one
in another state, makes the exchanges of a reading, then its reading of the text is the same;
and if it makes them up to one of them and gives a reason for failing there, then its reading
fails at the place of that one, and nothing behind it is performed.

To compare two hosts their states have to be followed exchange by exchange. `Scenes` is what
happens to a host alone, without the reader, and `scenes` writes it down along a reading.
-/

namespace GuessingGame.Script

variable {σ τ : Type}

/-- A host that writes down its exchanges and the state behind each of them. -/
def Host.witnessed (host : Host σ) : Host (List (Exchange × σ) × σ) where
  announce notice state :=
    (state.1 ++ [(.told notice, host.announce notice state.2)], host.announce notice state.2)
  solve challenge state :=
    let (answer, after) := host.solve challenge state.2
    (answer, (state.1 ++ [(.asked challenge answer, after)], after))

/-- The exchanges of a whole reading, and the state of the host behind each of them. -/
def scenes (host : Host σ) (text : String) (state : σ) : List (Exchange × σ) :=
  (read (some host.witnessed) text ([], state)).2.1

/-- `Scenes host state shown final` says that the exchanges in `shown`, one after another,
take a host from `state` to `final`, through the states that are shown with them. -/
inductive Scenes (host : Host σ) : σ → List (Exchange × σ) → σ → Prop
  | nil {state : σ} : Scenes host state [] state
  | told {state final : σ} {notice : Notice} {rest : List (Exchange × σ)} :
      Scenes host (host.announce notice state) rest final →
      Scenes host state ((.told notice, host.announce notice state) :: rest) final
  | asked {state after final : σ} {challenge : Challenge} {answer : Except String Verdict}
      {rest : List (Exchange × σ)} : host.solve challenge state = (answer, after) →
      Scenes host after rest final →
      Scenes host state ((.asked challenge answer, after) :: rest) final

namespace Scenes

variable {host : Host σ} {state middle final : σ} {front back : List (Exchange × σ)}

theorem append (h : Scenes host state front middle) (k : Scenes host middle back final) :
    Scenes host state (front ++ back) final := by
  induction h with
  | nil => exact k
  | told _ ih => exact .told (ih k)
  | asked answer _ ih => exact .asked answer (ih k)

theorem split (h : Scenes host state (front ++ back) final) :
    ∃ middle, Scenes host state front middle ∧ Scenes host middle back final := by
  induction front generalizing state with
  | nil => exact ⟨state, .nil, h⟩
  | cons first front ih =>
      cases h with
      | told rest =>
          obtain ⟨middle, before, after⟩ := ih rest
          exact ⟨middle, .told before, after⟩
      | asked answer rest =>
          obtain ⟨middle, before, after⟩ := ih rest
          exact ⟨middle, .asked answer before, after⟩

/-- What the host does at a first exchange that tells it something. -/
theorem of_told {shown : List (Exchange × σ)} {notice : Notice} {rest : List Exchange}
    (h : Scenes host state shown final) (same : shown.map Prod.fst = .told notice :: rest) :
    ∃ later, Scenes host (host.announce notice state) later final ∧ later.map Prod.fst = rest := by
  cases h with
  | nil => cases same
  | told happens =>
      obtain ⟨first, others⟩ := List.cons.inj same
      cases first
      exact ⟨_, happens, others⟩
  | asked _ _ => cases (List.cons.inj same).1

/-- What the host does at a first exchange that asks for a level to be played. -/
theorem of_asked {shown : List (Exchange × σ)} {challenge : Challenge}
    {answer : Except String Verdict} {rest : List Exchange} (h : Scenes host state shown final)
    (same : shown.map Prod.fst = .asked challenge answer :: rest) :
    ∃ after later, host.solve challenge state = (answer, after) ∧
      Scenes host after later final ∧ later.map Prod.fst = rest := by
  cases h with
  | nil => cases same
  | told _ => cases (List.cons.inj same).1
  | asked answered happens =>
      obtain ⟨first, others⟩ := List.cons.inj same
      cases first
      exact ⟨_, _, answered, happens, others⟩

theorem of_nil {shown : List (Exchange × σ)} (h : Scenes host state shown final)
    (same : shown.map Prod.fst = []) : final = state := by
  obtain rfl := List.map_eq_nil_iff.mp same
  cases h
  rfl

end Scenes

namespace Reader.Follows

variable {host : Host σ} {statements : List (Place × Statement)} {reader after : Reader}
variable {state state' : σ} {made : List (Place × Exchange)} {ending : Ending}

/-- A witnessed host makes the same exchanges, and writes down what happens to the host. -/
theorem witnessed (h : Follows host statements reader state made ending after state') :
    ∃ shown, Scenes host state shown state' ∧ shown.map Prod.fst = made.map Prod.snd ∧
      ∀ log, Follows host.witnessed statements reader (log, state) made ending after
        (log ++ shown, state') := by
  induction h with
  | nil => exact ⟨[], .nil, rfl, fun log => by rw [List.append_nil]; exact .nil⟩
  | quiet ne heard _ ih =>
      obtain ⟨shown, happens, same, follows⟩ := ih
      exact ⟨shown, happens, same, fun log => .quiet ne heard (follows log)⟩
  | @told _ _ notice _ _ _ state _ _ _ heard _ ih =>
      obtain ⟨shown, happens, same, follows⟩ := ih
      refine ⟨_ :: shown, .told happens, congrArg (List.cons _) same, fun log => ?_⟩
      have more := follows (log ++ [(.told notice, host.announce notice state)])
      rw [List.append_assoc] at more
      exact .told heard more
  | @proceed _ _ reader _ _ middle _ _ _ answer _ ih =>
      obtain ⟨shown, happens, same, follows⟩ := ih
      refine ⟨_ :: shown, .asked answer happens, congrArg (List.cons _) same, fun log => ?_⟩
      have more := follows (log ++ [(.asked reader.draft.challenge (.ok .proceed), middle)])
      rw [List.append_assoc] at more
      exact .proceed (by simp only [Host.witnessed, answer]) more
  | halt answer =>
      refine ⟨[_], .asked answer .nil, rfl, fun log => .halt ?_⟩
      simp only [Host.witnessed, answer]
  | fail answer =>
      refine ⟨[_], .asked answer .nil, rfl, fun log => .fail ?_⟩
      simp only [Host.witnessed, answer]

/-- Where all exchanges of a run can be made, the run is the same. -/
theorem replay (h : Follows host statements reader state made ending after state')
    {host' : Host τ} {other final : τ} {shown : List (Exchange × τ)}
    (happens : Scenes host' other shown final) (same : shown.map Prod.fst = made.map Prod.snd) :
    Follows host' statements reader other made ending after final := by
  induction h generalizing other shown with
  | nil =>
      rw [happens.of_nil same]
      exact .nil
  | quiet ne heard _ ih => exact .quiet ne heard (ih happens same)
  | told heard _ ih =>
      obtain ⟨later, rest, others⟩ := happens.of_told same
      exact .told heard (ih rest others)
  | proceed _ _ ih =>
      obtain ⟨middle, later, answered, rest, others⟩ := happens.of_asked same
      exact .proceed answered (ih rest others)
  | halt _ =>
      obtain ⟨middle, later, answered, rest, others⟩ := happens.of_asked same
      rw [rest.of_nil others]
      exact .halt answered
  | fail _ =>
      obtain ⟨middle, later, answered, rest, others⟩ := happens.of_asked same
      rw [rest.of_nil others]
      exact .fail answered

/-- A level that is not played ends the run with the reason, at its place. -/
theorem fail_of_scenes {host' : Host τ} {other final : τ} {shown : List (Exchange × τ)}
    {reason : String} (happens : Scenes host' other shown final)
    (same : shown.map Prod.fst = [.asked reader.draft.challenge (.error reason)])
    (place : Place) (rest : List (Place × Statement)) :
    Follows host' ((place, .solve) :: rest) reader other
      [(place, .asked reader.draft.challenge (.error reason))] (.failed place reason) reader
      final := by
  obtain ⟨middle, later, answered, others, none⟩ := happens.of_asked same
  rw [others.of_nil none]
  exact .fail answered

/-- Where the exchanges of a run can be made up to one at which a level is to be played, and
there a host gives a reason for not playing it, the run fails at the place of that exchange. -/
theorem interrupted (h : Follows host statements reader state made ending after state')
    {host' : Host τ} {other final : τ} {shown : List (Exchange × τ)} {front back : List Exchange}
    {challenge : Challenge} {answer : Except String Verdict} {reason : String}
    (split : made.map Prod.snd = front ++ .asked challenge answer :: back)
    (happens : Scenes host' other shown final)
    (same : shown.map Prod.fst = front ++ [.asked challenge (.error reason)]) :
    ∃ place cut after', made[front.length]? = some (place, .asked challenge answer) ∧
      cut.map Prod.snd = front ++ [.asked challenge (.error reason)] ∧
      Follows host' statements reader other cut (.failed place reason) after' final := by
  induction h generalizing other shown front with
  | nil => simp at split
  | quiet ne heard _ ih =>
      obtain ⟨place, cut, after', found, exchanges, follows⟩ := ih split happens same
      exact ⟨place, cut, after', found, exchanges, .quiet ne heard follows⟩
  | told heard _ ih =>
      cases front with
      | nil => cases (List.cons.inj split).1
      | cons first front =>
          obtain ⟨rfl, behind⟩ := List.cons.inj split
          obtain ⟨later, rest, others⟩ := happens.of_told same
          obtain ⟨place, cut, after', found, exchanges, follows⟩ := ih behind rest others
          exact ⟨place, _ :: cut, after', found, congrArg (List.cons _) exchanges,
            .told heard follows⟩
  | @proceed place rest _ _ _ _ _ _ _ _ _ ih =>
      cases front with
      | nil =>
          cases (List.cons.inj split).1
          exact ⟨place, _, _, rfl, rfl, fail_of_scenes happens same place rest⟩
      | cons first front =>
          obtain ⟨rfl, behind⟩ := List.cons.inj split
          obtain ⟨middle, later, answered, rest, others⟩ := happens.of_asked same
          obtain ⟨place, cut, after', found, exchanges, follows⟩ := ih behind rest others
          exact ⟨place, _ :: cut, after', found, congrArg (List.cons _) exchanges,
            .proceed answered follows⟩
  | @halt place rest _ _ _ _ | @fail place _ rest _ _ _ _ =>
      cases front with
      | nil =>
          cases (List.cons.inj split).1
          exact ⟨place, _, _, rfl, rfl, fail_of_scenes happens same place rest⟩
      | cons first front => simp at split

end Reader.Follows

/-- An exchange is the answer to the call that stands in its place. -/
theorem Cut.getElem?_call {due : List (Place × Call)} {made : List (Place × Exchange)}
    (h : Cut due made) {i : Nat} {place : Place} {exchange : Exchange}
    (found : made[i]? = some (place, exchange)) : due[i]? = some (place, exchange.call) := by
  induction h generalizing i with
  | nil => simp at found
  | proceed _ _ ih =>
      cases i with
      | zero =>
          cases found
          rfl
      | succ i => exact ih found
  | stop _ =>
      cases i with
      | zero =>
          cases found
          rfl
      | succ i => simp at found

section Readings

variable (host : Host σ) (text : String) (state : σ)

/-- What is written down along a reading is what happened. -/
theorem scenes_happen :
    Scenes host state (scenes host text state) (read (some host) text state).2 ∧
      (scenes host text state).map Prod.fst = exchanges host text state := by
  obtain ⟨made, ending, after, state', follows, run, recorded⟩ := read_follows host text state
  obtain ⟨shown, happens, same, witnessed⟩ := follows.witnessed
  have shown_eq : scenes host text state = shown := by
    rw [scenes, read_eq_follow]
    dsimp only
    rw [(witnessed []).run rfl]
    rfl
  rw [shown_eq, run, recorded]
  exact ⟨happens, same⟩

variable {host text state}

/-- A host that can make all exchanges of a reading reads the text with the same result. -/
theorem read_of_scenes {host' : Host τ} {other final : τ} {shown : List (Exchange × τ)}
    (happens : Scenes host' other shown final)
    (same : shown.map Prod.fst = exchanges host text state) :
    read (some host') text other = ((read (some host) text state).1, final) := by
  obtain ⟨made, ending, after, state', follows, run, recorded⟩ := read_follows host text state
  rw [recorded] at same
  rw [run, read_eq_follow]
  dsimp only
  rw [(follows.replay happens same).run rfl]

/-- A host that can make the exchanges of a reading up to one, and gives a reason for not
playing the level there, lets the reading fail at the statement that asked for it. -/
theorem read_of_scenes_interrupted {host' : Host τ} {other final : τ}
    {shown : List (Exchange × τ)} {front back : List Exchange} {challenge : Challenge}
    {answer : Except String Verdict} {reason : String}
    (split : exchanges host text state = front ++ .asked challenge answer :: back)
    (happens : Scenes host' other shown final)
    (same : shown.map Prod.fst = front ++ [.asked challenge (.error reason)]) :
    ∃ place, (calls [] (Cursor.ofText text).outline.statements)[front.length]? =
        some (place, .ask challenge) ∧
      read (some host') text other = (.error ⟨.interrupted reason, place⟩, final) ∧
      exchanges host' text other = front ++ [.asked challenge (.error reason)] := by
  obtain ⟨made, ending, after, state', follows, -, recorded⟩ := read_follows host text state
  rw [recorded] at split
  obtain ⟨place, cut, after', found, exchanged, follows'⟩ :=
    follows.interrupted split happens same
  refine ⟨place, (follows.cut Draft.describes_nil).getElem?_call found, ?_, ?_⟩
  · rw [read_eq_follow]
    dsimp only
    rw [follows'.run rfl]
    rfl
  · rw [← exchanged, exchanges, read_eq_follow]
    dsimp only
    rw [(follows'.recorded []).run rfl]
    rfl

end Readings

end GuessingGame.Script
