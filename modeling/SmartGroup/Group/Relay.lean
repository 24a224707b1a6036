import SmartGroup.Group.Sources
import SmartGroup.Support.Credit

/-! What the listeners of a stream get. The list of their repeaters is made when the stream is
opened and stays until it ends; each frame of it that is relayed goes to each of them once. -/
namespace SmartGroup
open Bytes Sweep Machine

/-- A voice frame for a repeater, and the socket that it goes out on. -/
def Output.written : Output → Option (Nat × AMBEData)
  | .writeAMBE i data => some (i, data)
  | _ => none

namespace GroupHandler

/-- The voice frame that a packet brings, from either side. -/
def voiceOf : GroupEvent → Option (Env × AMBEData)
  | .g2AMBE env data | .reflectorAMBE env data => some (env, data)
  | _ => none

/-- A frame as it goes to each of the repeaters. -/
def copies (repeaters : OrdMap Str SGSRepeater) (env : Env) (data : AMBEData) : List (Nat × AMBEData) :=
  repeaters.toList.map fun entry =>
    (env.server (isIPv4 entry.2.addr), data.setDestination entry.2.addr (g2Port entry.2.addr))

theorem written_sendAMBEToRepeaters (env : Env) (g : GroupHandler) (data : AMBEData) :
    (g.sendAMBEToRepeaters env data).filterMap Output.written = copies g.repeaters env data := by
  have each : ∀ l : List (Str × SGSRepeater), (l.map fun entry => Output.writeAMBE
      (env.server (isIPv4 entry.2.addr)) (data.setDestination entry.2.addr (g2Port entry.2.addr))).filterMap
        Output.written = l.map fun entry => (env.server (isIPv4 entry.2.addr),
          data.setDestination entry.2.addr (g2Port entry.2.addr)) := by
    intro l
    induction l with
    | nil => rfl
    | cons entry l ih => simp only [List.map_cons, List.filterMap_cons, Output.written, ih]
  exact each g.repeaters.toList

section
variable {g g' : GroupHandler} {e : GroupEvent} {env : Env} {data : AMBEData} {outs : List Output}

/-- A step leaves the list of the repeaters alone or ends the stream. -/
theorem list_kept (taken : step g e = .ok (g', outs)) (running : g.id ≠ 0) (stays : g'.id = g.id) :
    g'.repeaters = g.repeaters := by
  have stream : g'.id ≠ 0 := stays ▸ running
  cases step_case taken with
  | refused env header _ => rfl
  | opened env header islogin g₁ _ opens _ => exact absurd opens.2.1 running
  | recorded env header go _ _ _ case => exact case.frame.2.1
  | skipped env data _ => rfl
  | voice env data _ _ _ case _ =>
      cases case with
      | unknown _ | going _ _ _ => rfl
      | login _ _ _ _ | logoff _ _ _ _ _ _ _ | relay _ _ _ _ => exact absurd rfl stream
  | reflectorHeader env header _ case =>
      cases case with
      | busy _ => rfl
      | idle idle => exact absurd idle running
  | reflectorAMBE env data _ _ case _ =>
      cases case with
      | other _ | going _ _ => rfl
      | last _ _ => exact absurd rfl stream
  | logoffUser c _ _ case _ =>
      cases case with
      | all _ | last _ _ _ _ => exact absurd rfl stream
      | absent _ _ => rfl
      | one r _ _ _ =>
          unfold dropFirstId
          split <;> rfl
  | clock env ms _ _ tick =>
      rcases tick.stream with ⟨-, repeaters, -⟩ | ⟨idle, -, -⟩
      · exact repeaters
      · exact absurd idle stream
  | relink info => rfl

/-- What a frame of a user writes. -/
theorem g2AMBE_written (taken : step g (.g2AMBE env data) = .ok (g', outs)) :
    outs.filterMap Output.written =
      if RelaysFrame ⟨g, .g2AMBE env data, outs, g'⟩ then copies g.repeaters env data else [] := by
  by_cases known : data.getId = g.id ∧ ∃ tx, g.Pending g.id tx
  · obtain ⟨current, tx, pending⟩ := known
    have relays := (g2AMBE_spec pending taken).1
    simp only [step, current, if_true] at taken
    have sent := processAMBE_outs (current.symm ▸ pending) taken
    by_cases heard : data.getId = g.id ∧ ¬tx.login ∧ ¬g.listenOnly
    · rw [if_pos (relays.mpr heard), sent, if_pos heard, List.filterMap_append, written_sendAMBEToRepeaters]
      split <;> rfl
    · rw [if_neg fun relayed => heard (relays.mp relayed), sent, if_neg heard]
      rfl
  · have silent : outs = [] := by
      simp only [step] at taken
      split at taken
      · rename_i current
        refine processAMBE_unknown (fun tx pending => known ⟨current, tx, ?_⟩) taken
        exact current ▸ pending
      · cases taken
        rfl
    have quiet : ¬RelaysFrame ⟨g, .g2AMBE env data, outs, g'⟩ := by
      rw [silent]
      exact List.not_mem_nil
    rw [if_neg quiet, silent]
    rfl

theorem reflectorAMBE_written (taken : step g (.reflectorAMBE env data) = .ok (g', outs)) :
    outs.filterMap Output.written =
      if RelaysFrame ⟨g, .reflectorAMBE env data, outs, g'⟩ then copies g.repeaters env data else [] := by
  have relays := (reflectorAMBE_spec taken).1
  simp only [step, processReflectorAMBE, Except.ok.injEq] at taken
  by_cases current : data.getId = g.id
  · have sent : outs = if ((g.ids[g.id]?).getD none).any (·.login) then [] else g.sendAMBEToRepeaters env data := by
      simp only [current, ne_eq, not_true_eq_false, if_false] at taken
      split at taken <;> cases taken <;> rfl
    have same : ((g.ids[g.id]?).getD none).any (·.login) = g.ids[g.id]?.join.any (·.login) := by
      cases g.ids[g.id]? <;> rfl
    rw [same] at sent
    by_cases stays : g.ids[g.id]?.join.any (·.login) = true
    · rw [if_neg fun relayed => (relays.mp relayed).2 stays, sent, if_pos stays]
      rfl
    · rw [if_pos (relays.mpr ⟨current, stays⟩), sent, if_neg stays, written_sendAMBEToRepeaters]
  · simp only [current, ne_eq, not_false_eq_true, if_true] at taken
    cases taken
    rw [if_neg fun relayed => current (relays.mp relayed).1]
    rfl

end

/-- While a stream is open the list is the one that it was opened with. -/
theorem list_of_stream {start g : GroupHandler} {session : List GroupEntry} (run : Run step start session g)
    (running : start.id ≠ 0) (stays : ∀ y ∈ session, y.pre.id = start.id) :
    (∀ y ∈ session, y.pre.repeaters = start.repeaters) ∧ (g.id = start.id → g.repeaters = start.repeaters) := by
  induction run with
  | nil => exact ⟨by simp, fun _ => rfl⟩
  | @snoc session s e s' o before last ih =>
      obtain ⟨sofar, now⟩ := ih fun y member => stays y (List.mem_append_left _ member)
      have id : s.id = start.id := stays ⟨s, e, o, s'⟩ (by simp)
      have list := now id
      refine ⟨fun y member => ?_, fun still => ?_⟩
      · rcases List.mem_append.mp member with earlier | newest
        · exact sofar y earlier
        · rw [List.mem_singleton.mp newest]
          exact list
      · rw [list_kept last (id ▸ running) (still.trans id.symm), list]

/-- A stream is copied as it comes. From the step that opens it to the one that ends it the list of
repeaters stays the one that was found when it was opened; a frame of either side that is relayed is
written once for each of them, in their order and with nothing changed but the address, and one that
is not relayed is not written at all. -/
theorem stream_copied {c : Config} {before session : List GroupEntry} {x : GroupEntry} {g : GroupHandler}
    (run : GroupRun c (before ++ x :: session) g) (opens : x.post.id ≠ 0)
    (stays : ∀ y ∈ session, y.pre.id = x.post.id) :
    (∀ y ∈ session, y.pre.repeaters = x.post.repeaters) ∧ (g.id = x.post.id → g.repeaters = x.post.repeaters) ∧
      ∀ y ∈ session, ∀ env data, voiceOf y.event = some (env, data) →
        y.outs.filterMap Output.written = if RelaysFrame y then copies x.post.repeaters env data else [] := by
  have split : before ++ x :: session = (before ++ [x]) ++ session := by simp
  rw [split] at run
  obtain ⟨t, first, second⟩ := run.divide
  obtain rfl := first.last
  obtain ⟨lists, last⟩ := list_of_stream second opens stays
  refine ⟨lists, last, fun y member env data brings => ?_⟩
  have list := lists y member
  obtain ⟨pre, event, outs, post⟩ := y
  have taken := (second.entry member).1
  dsimp only at taken brings list
  cases event with
  | g2AMBE env' data' =>
      cases brings
      rw [← list]
      exact g2AMBE_written taken
  | reflectorAMBE env' data' =>
      cases brings
      rw [← list]
      exact reflectorAMBE_written taken
  | _ => cases brings

section
open Sample

/-- Two users, of whom the first talks to the second. -/
theorem frame_copied : ∃ (tr : List GroupEntry) (g : GroupHandler) (x y : GroupEntry) (env : Env),
    GroupRun config tr g ∧ y ∈ tr ∧ RelaysFrame y ∧ x.post.repeaters.toList.length = 1 ∧
      y.pre.repeaters = x.post.repeaters ∧ y.outs.filterMap Output.written = copies x.post.repeaters env (frame 9) := by
  obtain ⟨tr, g, run, accepted⟩ := Sample.run
    [.g2Header knownEnv (call userA smart 1), .g2AMBE knownEnv (lastFrame 1),
      .g2Header knownEnv (call userB smart 2), .g2AMBE knownEnv (lastFrame 2),
      .g2Header knownEnv (call userA smart 9), .g2AMBE knownEnv (frame 9), .g2AMBE knownEnv (lastFrame 9)]
    (fun tr _ => decide (∃ x ∈ tr[4]?, (x : GroupEntry).post.id = 9 ∧ x.post.repeaters.toList.length = 1 ∧
      (∀ y ∈ tr.drop 5, (y : GroupEntry).pre.id = 9) ∧ ∃ y ∈ tr.drop 5, RelaysFrame y ∧
        (voiceOf y.event).map Prod.snd = some (frame 9))) (by decide +kernel)
  obtain ⟨x, fifth, id, single, stays, y, member, relays, brought⟩ := of_decide_eq_true accepted
  have split : tr = tr.take 4 ++ x :: tr.drop 5 := by
    calc tr = tr.take 4 ++ tr.drop 4 := (List.take_append_drop 4 tr).symm
      _ = tr.take 4 ++ x :: tr.drop 5 := by
        rw [List.drop_eq_getElem?_toList_append, Option.mem_def.mp fifth]
        simp
  obtain ⟨⟨env, data⟩, brings, rfl⟩ := Option.map_eq_some_iff.mp brought
  obtain ⟨lists, -, copied⟩ := stream_copied (split ▸ run) (by rw [id]; decide)
    fun z inside => (stays z inside).trans id.symm
  have copied := copied y member env _ brings
  rw [if_pos relays] at copied
  exact ⟨tr, g, x, y, env, run, List.mem_of_mem_drop member, relays, single, lists y member, copied⟩

end

end GroupHandler
end SmartGroup
