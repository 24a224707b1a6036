import Mathlib.Data.List.TakeWhile
import SmartGroup.Irc.Reflectors
import SmartGroup.Support.Last
import SmartGroup.Support.Lines

/-! The host files with the reflectors, as the server reads them when it starts. -/
namespace SmartGroup
open Bytes Last

namespace CSGSThread

/-- A blank, a tab and a carriage return. -/
def space (b : UInt8) : Bool := b = 32 || b = 9 || b = 13

/-- `char line[256]` has room for 255 characters and the terminator. -/
def lineLength : Nat := 255

structure Loading where
  count : Nat
  tries : Nat
  app : IRCDDBApp

/-- The text that stands in the array after `getline`. -/
def text (line : Str) : Str := line.takeWhile (· ≠ 0)

/-- A turn of the loop. The third word is read and not used. -/
def loadLine (gethostbyname : Str → Option Str) (s : Loading) (line : Str) : Loading :=
  match Lines.strtok space (text line) with
  | none => s
  | some (first, rest) =>
      if first.head? = some 35 then s
      else
        let s := { s with tries := s.tries + 1 }
        match Lines.strtok space rest with
        | none => s
        | some (second, _) =>
            match gethostbyname second with
            | none => s
            | some address => { s with count := s.count + 1, app := s.app.loadReflector first address }

/-- `loadReflectors` on the contents of the file. -/
def loadReflectors (gethostbyname : Str → Option Str) (app : IRCDDBApp) (file : Str) : Loading :=
  (Lines.read 10 lineLength file).foldl (loadLine gethostbyname) ⟨0, 0, app⟩

/-! What the words of a line say. -/

def wordsOf (line : Str) : List Str := Lines.words space (text line)

/-- The line is no comment and has a word. -/
def tried : List Str → Bool
  | [] => false
  | name :: _ => name.head? ≠ some 35

/-- The name on a line, and the address of the host behind it. -/
def hostOf (gethostbyname : Str → Option Str) : List Str → Option Host
  | name :: host :: _ => if name.head? = some 35 then none else (gethostbyname host).map (Host.mk name)
  | _ => none

section
variable {gethostbyname : Str → Option Str}

theorem loadLine_eq (s : Loading) (line : Str) :
    loadLine gethostbyname s line =
      ⟨s.count + (hostOf gethostbyname (wordsOf line)).toList.length,
        s.tries + (tried (wordsOf line)).toNat,
        s.app.loadReflectors (hostOf gethostbyname (wordsOf line)).toList⟩ := by
  unfold loadLine wordsOf
  cases first : Lines.strtok space (text line) with
  | none =>
      rw [Lines.words_of_strtok_none first]
      rfl
  | some cut =>
      obtain ⟨name, rest⟩ := cut
      rw [Lines.words_of_strtok first]
      by_cases comment : name.head? = some 35
      · cases Lines.words space rest <;> simp [hostOf, tried, comment, IRCDDBApp.loadReflectors]
      · cases second : Lines.strtok space rest with
        | none =>
            rw [Lines.words_of_strtok_none second]
            simp [hostOf, tried, comment, second, IRCDDBApp.loadReflectors]
        | some cut =>
            obtain ⟨host, rest'⟩ := cut
            rw [Lines.words_of_strtok second]
            cases found : gethostbyname host <;>
              simp [hostOf, tried, comment, second, found, IRCDDBApp.loadReflectors]

/-- The reflectors of the lines, in their order. -/
def hostsOf (gethostbyname : Str → Option Str) (lines : List Str) : List Host :=
  lines.filterMap fun line => hostOf gethostbyname (wordsOf line)

theorem hostsOf_cons (line : Str) (lines : List Str) :
    hostsOf gethostbyname (line :: lines) =
      (hostOf gethostbyname (wordsOf line)).toList ++ hostsOf gethostbyname lines := by
  rw [hostsOf, List.filterMap_cons]
  cases hostOf gethostbyname (wordsOf line) <;> rfl

theorem foldl_loadLine (s : Loading) (lines : List Str) :
    lines.foldl (loadLine gethostbyname) s =
      ⟨s.count + (hostsOf gethostbyname lines).length, s.tries + lines.countP fun line => tried (wordsOf line),
        s.app.loadReflectors (hostsOf gethostbyname lines)⟩ := by
  induction lines generalizing s with
  | nil => rfl
  | cons line lines ih =>
      rw [List.foldl_cons, ih, loadLine_eq, List.countP_cons, hostsOf_cons]
      congr 1
      · rw [List.length_append, Nat.add_assoc]
      · cases tried (wordsOf line) <;> simp
        omega
      · exact List.foldl_append.symm

/-- The last reflector with the gateway, and its address. -/
def lastAddress (hosts : List Host) (gate : Str) : Option Str :=
  lastOf (fun h : Host => if h.address ≠ [] ∧ h.gate = gate then some h.address else none) hosts

theorem loadReflectors_gateAddr (a : IRCDDBApp) (hosts : List Host) (gate : Str) :
    (a.loadReflectors hosts).cache.gateAddr[gate]? = (lastAddress hosts gate).or a.cache.gateAddr[gate]? := by
  induction hosts using List.reverseRecOn with
  | nil => rfl
  | append_singleton hosts last ih =>
      rw [IRCDDBApp.loadReflectors, List.foldl_append, List.foldl_cons, List.foldl_nil,
        IRCDDBApp.loadReflector_gateAddr, lastAddress, lastOf_snoc]
      split
      · rfl
      · exact ih

/-- The lines that count: those that are ended, up to the first that does not fit in the array. -/
def linesOf (file : Str) : List Str := (file.splitOn 10).dropLast.takeWhile (·.length ≤ lineLength)

/-- The host files go into the map of the gateways line by line. Of the lines that are ended and stand
before the first that is too long, each one whose first word does not start a comment is tried, and each one
of these with a second word that is the name of a host is counted; a gateway has then the address of the last
reflector of its name, and where there is none the address that it had before. -/
theorem reflectors_loaded (gethostbyname : Str → Option Str) (app : IRCDDBApp) (file : Str) :
    let loaded := loadReflectors gethostbyname app file
    let hosts := hostsOf gethostbyname (linesOf file)
    loaded.tries = (linesOf file).countP (fun line => tried (wordsOf line)) ∧
      loaded.count = hosts.length ∧ loaded.app = app.loadReflectors hosts ∧
      ∀ gate, loaded.app.cache.gateAddr[gate]? = (lastAddress hosts gate).or app.cache.gateAddr[gate]? := by
  intro loaded hosts
  have whole : loaded = ⟨0 + hosts.length, 0 + (linesOf file).countP fun line => tried (wordsOf line),
      app.loadReflectors hosts⟩ := by
    rw [← foldl_loadLine ⟨0, 0, app⟩, linesOf, ← Lines.read_eq]
    rfl
  rw [whole, Nat.zero_add, Nat.zero_add]
  exact ⟨rfl, rfl, rfl, loadReflectors_gateAddr app hosts⟩

end

/-! A host file that is written line by line. -/

inductive HostLine where
  | reflector (name gap host remark : Str)
  | comment (remark : Str)
  deriving DecidableEq

namespace HostLine

def line : HostLine → Str
  | reflector name gap host remark => name ++ (gap ++ (host ++ remark))
  | comment remark => 35 :: remark

/-- A word of a line; the first one does not start a comment. -/
def Word (word : Str) : Prop := word ≠ [] ∧ ∀ b ∈ word, space b = false

instance (word : Str) : Decidable (Word word) := inferInstanceAs (Decidable (_ ∧ _))

def Formed : HostLine → Prop
  | reflector name gap host remark => Word name ∧ name.head? ≠ some 35 ∧ gap ≠ [] ∧ (∀ b ∈ gap, space b) ∧
      Word host ∧ remark.head?.all space
  | comment _ => True

instance : (l : HostLine) → Decidable l.Formed
  | reflector _ _ _ _ => inferInstanceAs (Decidable (_ ∧ _ ∧ _ ∧ _ ∧ _ ∧ _))
  | comment _ => .isTrue trivial

/-- A line that fits in the array and has no other end than its own. -/
structure Plain (l : HostLine) : Prop where
  formed : l.Formed
  single : 10 ∉ l.line
  terminated : 0 ∉ l.line
  fits : l.line.length ≤ lineLength

def isReflector : HostLine → Bool
  | reflector _ _ _ _ => true
  | comment _ => false

def found (gethostbyname : Str → Option Str) : HostLine → Option Host
  | reflector name _ host _ => (gethostbyname host).map (Host.mk name)
  | comment _ => none

theorem words_text {l : HostLine} (plain : l.Plain) : wordsOf l.line = Lines.words space l.line := by
  have all : text l.line = l.line := by
    rw [text, List.takeWhile_eq_self_iff]
    intro b member
    simpa using fun same : b = 0 => plain.terminated (same ▸ member)
  rw [wordsOf, all]

theorem words_remark {word remark : Str} (solid : Word word) (apart : remark.head?.all space) :
    ∃ others, Lines.words space (word ++ remark) = word :: others := by
  obtain ⟨single, more⟩ := Lines.words_word solid.1 solid.2
  cases remark with
  | nil => exact ⟨[], by rw [List.append_nil, single]⟩
  | cons b rest => exact ⟨_, more b rest apart⟩

/-- The words of a line that was written. -/
theorem Plain.words_line {l : HostLine} (plain : l.Plain) (gethostbyname : Str → Option Str) :
    tried (wordsOf l.line) = l.isReflector ∧ hostOf gethostbyname (wordsOf l.line) = l.found gethostbyname := by
  rw [words_text plain]
  cases l with
  | reflector name gap host remark =>
      obtain ⟨solid, listed, apart, blank, host_solid, remark_apart⟩ := plain.formed
      obtain ⟨others, rest⟩ := words_remark host_solid remark_apart
      obtain ⟨c, gap, rfl⟩ := List.exists_cons_of_ne_nil apart
      have words : Lines.words space (line (reflector name (c :: gap) host remark)) = name :: host :: others := by
        rw [line, List.cons_append, (Lines.words_word solid.1 solid.2).2 c _ (blank c List.mem_cons_self),
          Lines.words_spaces fun b member => blank b (List.mem_cons_of_mem c member), rest]
      rw [words]
      simp [tried, hostOf, isReflector, found, listed]
  | comment remark =>
      have cut : Lines.strtok space (line (comment remark)) =
        some (35 :: remark.takeWhile (fun b => !space b), (remark.dropWhile fun b => !space b).drop 1) := rfl
      rw [Lines.words_of_strtok cut]
      refine ⟨rfl, ?_⟩
      cases Lines.words space ((remark.dropWhile fun b => !space b).drop 1) <;> rfl

end HostLine

/-- The file with the lines, each with its end. -/
def written (lines : List HostLine) : Str := lines.flatMap fun l => l.line ++ [10]

/-- What the server makes nothing of: a line without its end, or one that is too long with all behind it. -/
def Lost (rest : Str) : Prop :=
  10 ∉ rest ∨ ∃ long tail, rest = long ++ tail ∧ 10 ∉ long ∧ lineLength < long.length

/-- A host file that was written is read back: each of its reflectors with a host that is found is loaded, in
the order of the lines, and a group can be linked to it afterwards; what stands behind a line that is too long
is lost, and so is a last line without its end. -/
theorem reflectors_written {lines : List HostLine} (plain : ∀ l ∈ lines, l.Plain) {rest : Str} (lost : Lost rest)
    (gethostbyname : Str → Option Str) (app : IRCDDBApp) :
    let loaded := loadReflectors gethostbyname app (written lines ++ rest)
    let hosts := lines.filterMap (·.found gethostbyname)
    loaded.tries = lines.countP (·.isReflector) ∧ loaded.count = hosts.length ∧
      loaded.app = app.loadReflectors hosts ∧ Reachable hosts loaded.app := by
  intro loaded hosts
  have nothing : Lines.read 10 lineLength rest = [] := by
    rcases lost with unended | ⟨long, tail, rfl, unended, exceeds⟩
    · exact Lines.read_unended unended
    · exact Lines.read_long unended exceeds tail
  have read : Lines.read 10 lineLength (written lines ++ rest) = lines.map (·.line) := by
    rw [written, Lines.read_flatMap _ lines fun l member => ⟨(plain l member).single, (plain l member).fits⟩,
      nothing, List.append_nil]
  have found : hostsOf gethostbyname (lines.map (·.line)) = hosts := by
    rw [hostsOf, List.filterMap_map]
    exact List.filterMap_congr fun l member => ((plain l member).words_line gethostbyname).2
  have count : (lines.map (·.line)).countP (fun line => tried (wordsOf line)) = lines.countP (·.isReflector) := by
    rw [List.countP_map]
    exact List.countP_congr fun l member => by
      simp [((plain l member).words_line gethostbyname).1]
  have whole : loaded = ⟨0 + hosts.length, 0 + lines.countP (·.isReflector), app.loadReflectors hosts⟩ := by
    rw [← found, ← count, ← foldl_loadLine ⟨0, 0, app⟩, ← read]
    rfl
  rw [whole, Nat.zero_add, Nat.zero_add]
  exact ⟨rfl, rfl, rfl, IRCDDBApp.reachable_loaded app hosts⟩

end CSGSThread

namespace Sample
open CSGSThread

def hostLines : List HostLine :=
  [.comment (str " DExtra and DCS"),
    .reflector (str "XRF002") [9] (str "xrf002.host") (str "  L # locked"),
    .reflector (str "XRF005") [32, 32] (str "gone.host") [],
    .reflector (str "DCS001") [32] (str "dcs001.host") [13]]

def resolver (host : Str) : Option Str :=
  if host = str "xrf002.host" then some (str "44.1.2.3")
  else if host = str "dcs001.host" then some (str "44.1.2.4") else none

theorem hostLines_plain : ∀ l ∈ hostLines, l.Plain := by
  intro l member
  simp only [hostLines, List.mem_cons, List.not_mem_nil, or_false] at member
  rcases member with rfl | rfl | rfl | rfl
  · exact ⟨trivial, by decide +kernel, by decide +kernel, by decide +kernel⟩
  · exact ⟨by decide +kernel, by decide +kernel, by decide +kernel, by decide +kernel⟩
  · exact ⟨by decide +kernel, by decide +kernel, by decide +kernel, by decide +kernel⟩
  · exact ⟨by decide +kernel, by decide +kernel, by decide +kernel, by decide +kernel⟩

/-- A file of four lines and the rest of a fifth; one host is not found. -/
theorem hostLines_written :
    let loaded := loadReflectors resolver (IRCDDBApp.new 950000000 .empty)
      (written hostLines ++ str "XRF003 xrf002.host")
    loaded.tries = 3 ∧ loaded.count = 2 ∧ Reachable Sample.hosts loaded.app := by
  have lost : Lost (str "XRF003 xrf002.host") := .inl (by decide +kernel)
  obtain ⟨tries, count, -, reachable⟩ := reflectors_written hostLines_plain lost resolver (.new 950000000 .empty)
  have found : hostLines.filterMap (·.found resolver) = Sample.hosts := by decide +kernel
  rw [found] at count reachable
  exact ⟨tries, count, reachable⟩

end Sample
end SmartGroup
