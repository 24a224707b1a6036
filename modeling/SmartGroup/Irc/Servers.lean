import SmartGroup.Irc.Effects

/-! The servers that the application chooses from. A server's name is filed when it
joins; its leave puts the application back to the choice but leaves the name filed. -/
namespace SmartGroup
open Bytes Sweep Machine

namespace CacheManager

theorem mem_names {c : CacheManager} {order : List Str} {name : Str} :
    name ∈ c.names order ↔ name ∈ c.nameNick := by
  simp only [names, List.mem_append, List.mem_filter, Std.ExtTreeMap.mem_keys, decide_eq_true_eq]
  by_cases listed : name ∈ order <;> simp [listed]

theorem isServer_ne_nil {name : Str} (server : isServer name = true) : name ≠ [] := by
  rintro rfl
  cases server

/-- In some order of the hash map the search returns the server, exactly when it is filed. -/
theorem exists_findServerUser_iff {c : CacheManager} {name : Str} (server : isServer name = true) :
    (∃ order, c.findServerUser order = name) ↔ name ∈ c.nameNick := by
  constructor
  · rintro ⟨order, found⟩
    unfold findServerUser at found
    cases search : (c.names order).find? isServer with
    | none =>
        rw [search, Option.getD_none] at found
        exact absurd found.symm (isServer_ne_nil server)
    | some other =>
        rw [search, Option.getD_some] at found
        rw [← found]
        exact mem_names.mp (List.mem_of_find?_eq_some search)
  · intro filed
    have first : c.names [name] = name :: c.nameNick.keys.filter (· ∉ [name]) := by
      simp [names, filed]
    exact ⟨[name], by simp [findServerUser, first, server]⟩

theorem mem_updateName {c : CacheManager} {name nick other : Str} :
    other ∈ (c.updateName name nick).nameNick ↔
      (name ≠ [] ∧ nick ≠ [] ∧ name = other) ∨ other ∈ c.nameNick := by
  unfold updateName
  split
  · rename_i empty
    rcases empty with rfl | rfl <;> simp
  · rename_i full
    simp only [not_or] at full
    simp [Std.ExtTreeMap.mem_insert, full]

end CacheManager

namespace IRCDDBApp

/-- The nick and the name that join. -/
def joiner : AppEvent → Option (Str × Str)
  | .userJoin nick name _ => some (nick, name)
  | _ => none

/-- The name that a join files. -/
def filed : AppEvent → Option Str
  | .userJoin nick name _ =>
      if nick.take 2 = str "u-" ∨ name = [] ∨ nick = [] then none else some name
  | _ => none

/-- A user of that name joins, and is filed. -/
def Names (name : Str) (x : AppEntry) : Prop := filed x.event = some name

/-- The server joins, with its name as its nick. -/
def Joins (server : Str) (x : AppEntry) : Prop := joiner x.event = some (server, server)

def Leaves (nick : Str) (x : AppEntry) : Prop := x.event = .userLeave nick

def Resets (x : AppEntry) : Prop := x.event = .userListReset

instance (name : Str) : DecidablePred (Names name) :=
  fun _ => inferInstanceAs (Decidable (_ = _))

instance (server : Str) : DecidablePred (Joins server) :=
  fun _ => inferInstanceAs (Decidable (_ = _))

instance (nick : Str) : DecidablePred (Leaves nick) :=
  fun _ => inferInstanceAs (Decidable (_ = _))

instance : DecidablePred Resets := fun _ => inferInstanceAs (Decidable (_ = _))

/-- The server has joined and has left after its last join. -/
def Departed (tr : List AppEntry) (server : Str) : Prop :=
  CacheManager.isServer server = true ∧ (∃ x ∈ tr, Joins server x) ∧
    Since (Leaves server) (Joins server) tr

instance (tr : List AppEntry) (server : Str) : Decidable (Departed tr server) :=
  inferInstanceAs (Decidable (_ ∧ _ ∧ _))

/-- The next turn of `Entry` would make the server the current one. -/
def Selects (a : IRCDDBApp) (server : Str) : Prop :=
  a.state = 2 ∧ ∃ order a' o, step a (.entry order) = .ok (a', o) ∧ a'.state = 3 ∧
    a'.currentServer = server

theorem doUpdate_nameNick (a : IRCDDBApp) (tm_isdst : Int) (msg : Str) :
    (a.doUpdate tm_isdst msg).cache.nameNick = a.cache.nameNick := by
  unfold doUpdate storeRow
  split
  · split
    · split
      · exact CacheManager.updateRptr_nameNick _ _ _ _
      · rfl
    · split
      · exact CacheManager.updateUser_nameNick _ _ _ _ _ _
      · rfl
  · rfl

/-- A server's name is filed by a join and forgotten by a reset only. -/
theorem AppCase.filed_iff {a a' : IRCDDBApp} {e : AppEvent} {o : List IRCMessage}
    (case : AppCase a e a' o) {server : Str} (form : CacheManager.isServer server = true) :
    server ∈ a'.cache.nameNick ↔
      filed e = some server ∨ server ∈ a.cache.nameNick ∧ e ≠ .userListReset := by
  have kept (same : a'.cache.nameNick = a.cache.nameNick) (join : filed e = none)
      (reset : e ≠ .userListReset) : server ∈ a'.cache.nameNick ↔
        filed e = some server ∨ server ∈ a.cache.nameNick ∧ e ≠ .userListReset := by
    simp [same, join, reset]
  cases case with
  | entry order _ _ case => exact kept (congrArg CacheManager.nameNick case.cache) rfl (by simp)
  | joined nick name addr =>
      simp only [userJoin, filed]
      by_cases user : nick.take 2 = str "u-"
      · simp [user]
      · simp only [user, if_false, CacheManager.updateGate_nameNick, CacheManager.mem_updateName,
          false_or]
        by_cases empty : name = [] ∨ nick = []
        · rcases empty with rfl | rfl <;> simp
        · simp only [not_or] at empty
          simp [empty]
  | serverLeft nick other => exact kept rfl rfl (by simp)
  | userLeft name d user =>
      -- the erased name does not begin like a server's, or the nick would
      have apart : name ≠ server := by
        rintro rfl
        have begins : name.take 2 = str "s-" := of_decide_eq_true form
        have two : 2 ≤ name.length := by
          have length := congrArg List.length begins
          simp only [List.length_take] at length
          simp [str] at length
          omega
        rw [List.take_append_of_le_length two] at user
        exact user begins
      simp [filed, CacheManager.eraseName, CacheManager.eraseGate, apart]
  | strangerLeft nick user shape => exact kept rfl rfl (by simp)
  | reset => simp [filed, userListReset, CacheManager.clearGate]
  | update e msg text =>
      cases e with
      | msgChannel m tm_isdst => exact kept (doUpdate_nameNick a tm_isdst msg) rfl (by simp)
      | msgQuery m tm_isdst => exact kept (doUpdate_nameNick a tm_isdst msg) rfl (by simp)
      | _ => cases text
  | _ => exact kept rfl rfl (by simp)

/-- A server is filed when one of its name has joined since the last reset. -/
theorem filed_since {m : Int} {c : CacheManager} {tr : List AppEntry} {s : IRCDDBApp}
    (run : AppRun m c tr s) {server : Str} (form : CacheManager.isServer server = true) :
    server ∈ s.cache.nameNick ↔ Since (Names server) Resets tr := by
  induction run with
  | nil => simp [new, CacheManager.clearGate]
  | snoc before last ih =>
      rw [(step_case last).filed_iff form, since_snoc, ih]
      rfl

/-- Entry makes a server the current one when the search returns it. -/
theorem findServerUser_of_selects {a : IRCDDBApp} {server : Str} (selects : Selects a server) :
    ∃ order, a.cache.findServerUser order = server := by
  obtain ⟨two, order, a', o, taken, three, current⟩ := selects
  have case := entryState_case taken
  cases case with
  | choose state queue found => exact ⟨order, current⟩
  | skipTable state queue table =>
      simp only [two] at state
      cases state
  | stay waits =>
      simp only [two] at three
      cases three
  | _ => cases three

/-- A server that has left is never selected again exactly when the list of users has been
reset since a user of its name last joined. -/
theorem departed_not_selected_iff {m : Int} {c : CacheManager} {tr : List AppEntry} {s : IRCDDBApp}
    (run : AppRun m c tr s) {server : Str} (gone : Departed tr server) :
    ((∀ order, s.cache.findServerUser order ≠ server) ∧ ¬Selects s server) ↔
      ¬Since (Names server) Resets tr := by
  have found := CacheManager.exists_findServerUser_iff (c := s.cache) gone.1
  rw [← filed_since run gone.1, ← found]
  constructor
  · rintro ⟨never, -⟩ ⟨order, returned⟩
    exact never order returned
  · intro never
    exact ⟨fun order returned => never ⟨order, returned⟩,
      fun selects => never (findServerUser_of_selects selects)⟩

section
open Sample

/-- A server that has left before the list of users was reset. -/
theorem forgotten_server : ∃ tr s, AppRun 950000000 .empty tr s ∧ Departed tr ircServer ∧
    (∀ order, s.cache.findServerUser order ≠ ircServer) ∧ ¬Selects s ircServer := by
  obtain ⟨tr, s, run, accepted⟩ := Sample.appRun 950000000 .empty
    (connect ++ complete ++ [.userLeave ircServer, .userListReset])
    (fun tr _ => decide (Departed tr ircServer ∧ ¬Since (Names ircServer) Resets tr)) (by decide +kernel)
  obtain ⟨gone, unnamed⟩ := of_decide_eq_true accepted
  exact ⟨tr, s, run, gone, (departed_not_selected_iff run gone).mpr unnamed⟩

/-- A server that leaves in standby and is chosen in the next turn. -/
theorem departed_server_selected : ∃ tr s, AppRun 950000000 .empty tr s ∧ Departed tr ircServer ∧
    s.cache.findServerUser [] = ircServer ∧ Selects s ircServer := by
  obtain ⟨tr, s, run, accepted⟩ := Sample.appRun 950000000 .empty
    (connect ++ complete ++ [.userLeave ircServer])
    (fun tr s => decide (Departed tr ircServer ∧ s.cache.findServerUser [] = ircServer ∧ s.state = 2 ∧
      s.sendQ = true)) (by decide +kernel)
  obtain ⟨gone, returned, two, queue⟩ := of_decide_eq_true accepted
  refine ⟨tr, s, run, gone, returned, two, [], ?_⟩
  have some_server : ircServer ≠ [] := by decide
  simp [step, entry, entryState, two, queue, returned, some_server]

end

end IRCDDBApp
end SmartGroup
