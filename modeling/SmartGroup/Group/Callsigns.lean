import SmartGroup.Group.Sent
import SmartGroup.Group.Routing
import SmartGroup.Irc.Shape

/-! The strings that a relayed header is addressed with have the length of its fields. -/
namespace SmartGroup
open Bytes Sweep Machine

/-- The event is seen with caches that the network and the host files have filled. -/
def Env.Fed (env : Env) : Prop := ∀ irc ∈ env.ircs, irc.2.cache.Fed

def GroupEvent.Fed : GroupEvent → Prop
  | .g2Header env _ | .g2AMBE env _ | .reflectorHeader env _ | .reflectorAMBE env _ | .clock env _ => env.Fed
  | .logoffUser _ | .relink _ => True

/-- The entry of `m_repeaters` for a repeater, with the strings that go into a header. -/
structure SGSRepeater.Shaped (key : Str) (repeater : SGSRepeater) : Prop where
  key : Eight key
  dest : Eight repeater.dest
  rptr : Eight repeater.rptr
  gate : Eight repeater.gate

/-- The header that goes to a repeater of the list, as `sendToRepeaters` addresses it. -/
def SGSRepeater.addressed (header : HeaderData) (key : Str) (repeater : SGSRepeater) : HeaderData :=
  ((header.setYourCall repeater.dest).setDestination repeater.addr
    (GroupHandler.g2Port repeater.addr)).setRepeaters repeater.gate key

/-- A user with an address is reached through a repeater and a gateway. -/
theorem Env.Fed.known {env : Env} (fed : env.Fed) {user : Str} (known : (env.findUserData user).addr ≠ []) :
    Eight (env.findUserData user).rptr ∧ Eight (env.findUserData user).gate := by
  have first := (fed (0, env.irc0) List.mem_cons_self).shaped.sound user
  unfold Env.findUserData at known ⊢
  cases second : env.irc1 with
  | none =>
      rw [second] at known
      exact first.known known
  | some irc1 =>
      have member : (1, irc1) ∈ env.ircs := by simp [Env.ircs, second]
      simp only [second] at known ⊢
      split
      · rename_i unknown
        rw [if_pos unknown] at known
        exact ((fed (1, irc1) member).shaped.sound user).known known
      · rename_i found
        exact first.known found

theorem SGSRepeater.shaped_of_known {data : UserData} (rptr : Eight data.rptr) (gate : Eight data.gate) :
    SGSRepeater.Shaped data.rptr (GroupHandler.repeaterOf data) where
  key := rptr
  dest := by
    have slash : (str "/").length = 1 := by decide +kernel
    unfold Eight at rptr ⊢
    simp [GroupHandler.repeaterOf, slash, rptr, longCallsignLength]
  rptr := rptr
  gate := gate

namespace GroupHandler

/-- The strings of the repeater list, and that the headers of the step are addressed with
them. The headers of the clock are those of reports to users. -/
structure Copies (x : GroupEntry) : Prop where
  listed : AllEntries SGSRepeater.Shaped x.post.repeaters
  written : ∀ server header, .writeHeader server header ∈ x.outs → (∃ env ms, x.event = .clock env ms) ∨
    ∃ base key r, x.post.repeaters[key]? = some r ∧ header = SGSRepeater.addressed base key r

theorem fillRepeaters_shaped {env : Env} {g : GroupHandler} (fed : env.Fed)
    (shaped : AllEntries SGSRepeater.Shaped g.repeaters) (skip : Str → Bool) :
    AllEntries SGSRepeater.Shaped (g.fillRepeaters env skip) := by
  intro key r got
  rcases get_fillRepeaters got with there | ⟨-, c, -, ⟨known, rfl⟩, rfl⟩
  · exact shaped key r there
  · obtain ⟨rptr, gate⟩ := fed.known known
    exact SGSRepeater.shaped_of_known rptr gate

theorem dropFirstId_repeaters (g : GroupHandler) (r : Nat) : (g.dropFirstId r).repeaters = g.repeaters := by
  unfold dropFirstId
  split <;> rfl

theorem repeaters_shaped {g g' : GroupHandler} {e : GroupEvent} {outs : List Output} (fed : e.Fed)
    (shaped : AllEntries SGSRepeater.Shaped g.repeaters) (taken : step g e = .ok (g', outs)) :
    AllEntries SGSRepeater.Shaped g'.repeaters := by
  have cleared : AllEntries SGSRepeater.Shaped (∅ : OrdMap Str SGSRepeater) := allEntries_empty _
  cases step_case taken with
  | refused env header _ => exact shaped
  | opened env header islogin g₁ accepted opens case =>
      rw [← case.frame.2.1] at shaped
      exact fillRepeaters_shaped fed shaped _
  | recorded env header go _ _ _ case =>
      rw [case.frame.2.1]
      exact shaped
  | skipped env data _ => exact shaped
  | voice env data _ _ _ case _ =>
      cases case with
      | unknown absent => exact shaped
      | going tx pending more => exact shaped
      | login tx pending last login => exact cleared
      | logoff tx user pending last held stays logoff => exact cleared
      | relay tx pending last stays => exact cleared
  | reflectorHeader env header _ case =>
      cases case with
      | busy stream => exact shaped
      | idle stream => exact fillRepeaters_shaped fed shaped _
  | reflectorAMBE env data _ _ case _ =>
      cases case with
      | other stream => exact shaped
      | going stream more => exact shaped
      | last stream last => exact cleared
  | logoffUser c _ _ case _ =>
      cases case with
      | all everyone => exact cleared
      | absent single absent => exact shaped
      | last r single filed alone => exact cleared
      | one r single filed others =>
          have same : (g.dropFirstId r).repeaters = g.repeaters := g.dropFirstId_repeaters r
          exact same ▸ shaped
  | clock env ms _ _ tick =>
      rcases tick.stream with ⟨-, same, -⟩ | ⟨-, none, -⟩
      · rw [same]
        exact shaped
      · rw [none]
        exact cleared
  | relink info => exact shaped

/-! The headers that are written. -/

theorem writeHeader_of_sendToRepeaters {env : Env} {g : GroupHandler} {base header : HeaderData} {server : Nat}
    (member : .writeHeader server header ∈ g.sendToRepeaters env base) :
    ∃ key r, g.repeaters[key]? = some r ∧ header = SGSRepeater.addressed base key r := by
  rcases List.mem_cons.mp member with other | written
  · cases other
  · obtain ⟨⟨key, r⟩, listed, same⟩ := List.mem_map.mp written
    cases same
    exact ⟨key, r, mem_toList.mp listed, rfl⟩

theorem writeHeader_not_mem_AMBE {env : Env} {g : GroupHandler} {data : AMBEData} {server : Nat}
    {header : HeaderData} : .writeHeader server header ∉ g.sendAMBEToRepeaters env data := by
  intro member
  rcases List.mem_cons.mp member with other | written
  · cases other
  · obtain ⟨entry, -, same⟩ := List.mem_map.mp written
    cases same

theorem writeHeader_not_mem_text {env : Env} {g : GroupHandler} {server : Nat} {header : HeaderData} :
    .writeHeader server header ∉ g.sendFromText env := by
  intro member
  obtain ⟨frame, -, sent⟩ := List.mem_flatMap.mp member
  exact writeHeader_not_mem_AMBE sent

theorem header_written {g g' : GroupHandler} {e : GroupEvent} {outs : List Output} {server : Nat}
    {header : HeaderData} (taken : step g e = .ok (g', outs)) (member : .writeHeader server header ∈ outs) :
    (∃ env ms, e = .clock env ms) ∨
      ∃ base key r, g'.repeaters[key]? = some r ∧ header = SGSRepeater.addressed base key r := by
  cases step_sends taken member with
  | book e o book => exact absurd trivial book.no_packet.1
  | opened env header' o accepted opens subscribed talks sent =>
      rcases sent with ⟨-, link⟩ | headers | text
      · cases link
      · exact .inr ⟨_, writeHeader_of_sendToRepeaters headers⟩
      · exact absurd text writeHeader_not_mem_text
  | voice env data o tx current pending stays talks sent =>
      rcases sent with ⟨-, link⟩ | frames
      · cases link
      · exact absurd frames writeHeader_not_mem_AMBE
  | reflectorHeader env header' o idle sent =>
      rcases sent with headers | text
      · exact .inr ⟨_, writeHeader_of_sendToRepeaters headers⟩
      · exact absurd text writeHeader_not_mem_text
  | reflectorAMBE env data o current stays sent => exact absurd sent writeHeader_not_mem_AMBE
  | report env ms k i tx u irc text o pending owner sent => exact .inl ⟨env, ms, rfl⟩

/-- Every cache that the network and the host files can fill has callsigns of eight
characters only, so that its lookups are sound, and so have the headers that a group which
sees such caches sends on. -/
theorem callsigns_shaped {config : Config} {tr : List GroupEntry} {g : GroupHandler}
    (run : GroupRun config tr g) (fed : ∀ x ∈ tr, x.event.Fed) :
    (∀ c : CacheManager, c.Fed → c.Shaped ∧ ∀ user, c.Sound user) ∧ ∀ x ∈ tr, Copies x := by
  constructor
  · intro c reached
    exact ⟨reached.shaped, fun user => reached.shaped.sound user⟩
  · have all : AllEntries SGSRepeater.Shaped g.repeaters ∧ ∀ x ∈ tr, Copies x := by
      induction run with
      | nil => exact ⟨allEntries_empty _, by simp⟩
      | @snoc tr s e s' o earlier last ih =>
          obtain ⟨shaped, copies⟩ := ih fun x member => fed x (List.mem_append_left _ member)
          have now := repeaters_shaped (fed ⟨s, e, o, s'⟩ (by simp)) shaped last
          refine ⟨now, ?_⟩
          intro x member
          rcases List.mem_append.mp member with before | here
          · exact copies x before
          · rw [List.mem_singleton.mp here]
            exact ⟨now, fun server header written => header_written last written⟩
    exact all.2

end GroupHandler
/-! A cache filled from the network, and a stream relayed from one user to another. -/
namespace Sample

/-- The application gets ready, and two users and their gateways become known. -/
def introduce : List AppEvent :=
  connect ++ complete ++ [.msgQuery (fromServer "UPDATE 0 2024-05-01 10:00:00 USERA___ RPTR1__B") 0,
    .msgQuery (fromServer "UPDATE 0 2024-05-01 10:00:00 USERB___ RPTR2__B") 0,
    .userJoin (str "rptr1-1") (str "rptr1") (str "44.0.0.1"),
    .userJoin (str "rptr2-1") (str "rptr2") (str "44.0.0.2")]

def fill : List FeedEvent := introduce.map .app ++ [.load (str "XRF002") (str "44.9.0.2")]

def filled : CacheManager :=
  match exec IRCDDBApp.feed (.new 950000000 .empty) fill with
  | .ok (_, a) => a.cache
  | .error _ => CacheManager.empty.clearGate

theorem filled_fed : filled.Fed := by
  unfold filled
  split
  · rename_i tr a ran
    exact ⟨950000000, tr, a, exec_run ran, rfl⟩
  · exact ⟨950000000, [], _, .nil, rfl⟩

def filledEnv : Env := { env with irc0 := ⟨filled, 7⟩ }

/-- Both users subscribe and the first one talks. -/
def relayed : List GroupEvent :=
  [.g2Header filledEnv (call userB smart 1), .g2AMBE filledEnv (lastFrame 1),
    .g2Header filledEnv (call userA smart 2), .g2AMBE filledEnv (lastFrame 2),
    .g2Header filledEnv (call userA smart 3)]

theorem relayed_fed : ∀ e ∈ relayed, e.Fed := by
  have fed : filledEnv.Fed := by
    intro irc member
    have only : irc = (0, ⟨filled, 7⟩) := List.mem_singleton.mp member
    rw [only]
    exact filled_fed
  intro e member
  simp only [relayed, List.mem_cons, List.not_mem_nil, or_false] at member
  rcases member with rfl | rfl | rfl | rfl | rfl <;> exact fed

end Sample

namespace GroupHandler

/-- The header of the first user goes to the repeater of the second one. -/
theorem relayed_shaped : ∃ tr g, GroupRun Sample.config tr g ∧
    (g.repeaters.toList.map fun entry => (entry.1, entry.2.dest)) = [(str "RPTR2  B", str "/RPTR2 B")] ∧
    (∀ c : CacheManager, c.Fed → c.Shaped ∧ ∀ user, c.Sound user) ∧ ∀ x ∈ tr, Copies x := by
  obtain ⟨tr, g, ran, checked⟩ := exists_exec_of_accepts step (init Sample.config) Sample.relayed
    (fun _ g => decide ((g.repeaters.toList.map fun entry => (entry.1, entry.2.dest)) =
      [(str "RPTR2  B", str "/RPTR2 B")])) (by decide +kernel)
  refine ⟨tr, g, exec_run ran, of_decide_eq_true checked, callsigns_shaped (exec_run ran) ?_⟩
  intro x member
  apply Sample.relayed_fed
  rw [← exec_events ran]
  exact List.mem_map_of_mem member

end GroupHandler
end SmartGroup
