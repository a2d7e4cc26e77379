import AgentReporting.Naming
import AgentReporting.Proofs.Text.Cuts

/-! # Node ids

A test runner announces a test by its file, its classes, its function and its parameters,
joined by double colons, and says in brackets which phase of the test runs. The file and the
test are read back, whatever the parameters are made of, unless a double colon stands in them.
-/

namespace AgentReporting

/-- A test as its runner names it. -/
structure NodeId where
  file : String
  classes : List String
  function : String
  parameters : Option String := none
deriving DecidableEq

namespace NodeId

/-- What a runner does with a test. -/
inductive Phase where
  | setup
  | call
  | teardown
deriving DecidableEq

def Phase.name : Phase → String
  | setup => "setup"
  | call => "call"
  | teardown => "teardown"

def separator : String := "::"

def test (n : NodeId) : String :=
  match n.parameters with
  | some parameters => n.function ++ "[" ++ parameters ++ "]"
  | none => n.function

def text (n : NodeId) : String :=
  separator.intercalate (n.file :: n.classes ++ [n.test])

def announcement (n : NodeId) (phase : Phase) : String :=
  n.text ++ " (" ++ phase.name ++ ")"

/-- No double colon stands in the file, and classes and functions have names without colons. -/
structure Proper (n : NodeId) : Prop where
  file : ¬ separator.toList <:+: n.file.toList
  classes : ∀ name ∈ n.classes, name ≠ "" ∧ ':' ∉ name.toList
  function : ':' ∉ n.function.toList

/-- The file ends in a colon, which runs into the separator. -/
def RunsOn (n : NodeId) : Prop := n.file.toList.getLast? = some ':'

instance (n : NodeId) : Decidable n.RunsOn := inferInstanceAs (Decidable (_ = _))

def fileRead (n : NodeId) : String :=
  if n.RunsOn then String.ofList n.file.toList.dropLast else n.file

/-- A double colon stands in the parameters, or the colon of the file runs into the function. -/
def Garbled (n : NodeId) : Prop :=
  (∃ parameters, n.parameters = some parameters ∧ separator.toList <:+: parameters.toList) ∨
    n.RunsOn ∧ n.classes = []

end NodeId

namespace Naming

open Text

variable {cs before file : List Char} {parts : List (List Char)}

/-! ## Colons -/

theorem infix_append_iff_of_notMem {c : Char} {sep : List Char} (h : c ∉ before) :
    c :: sep <:+: before ++ cs ↔ c :: sep <:+: cs := by
  induction before with
  | nil => rfl
  | cons b before ih =>
    rw [List.mem_cons, not_or] at h
    rw [List.cons_append, List.infix_cons_iff, ih h.2, List.cons_prefix_cons]
    exact or_iff_right fun hp => h.1 hp.1

theorem uncut_of_notMem (h : ':' ∉ cs) : Uncut [':', ':'] cs :=
  fun hi => absurd (infix_append_iff_of_notMem h |>.mp hi) (by decide)

theorem uncut_colon_cons (hne : cs ≠ []) (h : ':' ∉ cs) : Uncut [':', ':'] (':' :: cs) := by
  obtain ⟨c, rest, rfl⟩ := List.exists_cons_of_ne_nil hne
  intro hi
  rcases List.infix_cons_iff.mp hi with hp | hi
  · simp_all
  · exact uncut_of_notMem h hi

theorem uncut_of_getLast?_ne (h : ¬ [':', ':'] <:+: cs) (hl : cs.getLast? ≠ some ':') :
    Uncut [':', ':'] cs := by
  rcases List.eq_nil_or_concat cs with rfl | ⟨before, c, rfl⟩
  · exact uncut_of_notMem (List.not_mem_nil)
  · rw [List.concat_eq_append] at h hl ⊢
    intro hi
    rcases List.infix_concat_iff.mp hi with hs | hi
    · rw [← List.reverse_prefix] at hs
      simp only [List.reverse_append, List.reverse_cons, List.reverse_nil,
        List.nil_append, List.cons_append, List.cons_prefix_cons] at hs
      exact hl (by rw [List.getLast?_concat, hs.2.1])
    · exact h hi

/-! ## Joined nodes -/

/-- The first part is the file if it is no cut, and the test is in the last part if the others
are no cuts either. -/
theorem read_join (hf : Uncut [':', ':'] file) (h : ∀ part ∈ parts, Uncut [':', ':'] part)
    (last : List Char) : nodeFile ([':', ':'].intercalate (file :: parts ++ [last])) = file ∧
      nodeTest ([':', ':'].intercalate (file :: parts ++ [last])) = nodeTest last := by
  constructor
  · have hne : parts ++ [last] ≠ [] := by simp
    obtain ⟨part, rest, hr⟩ := List.exists_cons_of_ne_nil hne
    rw [List.cons_append, hr, nodeFile, List.intercalate_cons_cons, cut?_append hf]
  · rw [nodeTest, pieces_intercalate (List.forall_mem_cons.mpr ⟨hf, h⟩), nodeTest,
      List.getLast?_append_of_ne_nil _ (pieces_ne_nil ':' [':'] last)]

theorem getLast?_pieces_colon (cs : List Char) :
    (pieces ':' [':'] cs).getLast? = some (nodeTest cs) := by
  rw [nodeTest]
  cases hp : (pieces ':' [':'] cs).getLast? with
  | none => exact absurd (List.getLast?_eq_none_iff.mp hp) (pieces_ne_nil ':' [':'] cs)
  | some piece => rfl

theorem nodeTest_eq_iff : nodeTest cs = cs ↔ ¬ [':', ':'] <:+: cs := by
  rw [← getLast?_pieces_eq_iff, getLast?_pieces_colon, Option.some.injEq]

/-- A colon in front of a test comes out with it, or more is lost. -/
theorem nodeTest_colon_cons_ne : nodeTest (':' :: cs) ≠ cs := by
  intro h
  cases hc : cut? [':', ':'] (':' :: cs) with
  | none =>
    rw [nodeTest_eq_iff.mpr ((cut?_eq_none_iff (by decide)).mp hc)] at h
    exact List.cons_ne_self ':' cs h
  | some cut =>
    obtain ⟨before, after⟩ := cut
    have hl := getLast?_pieces_colon (':' :: cs)
    rw [h, pieces_of_cut hc, List.getLast?_cons_of_ne_nil (pieces_ne_nil ':' [':'] after)] at hl
    have hle := (suffix_of_getLast?_pieces hl).length_le
    have hlen := congrArg List.length (cut?_eq hc)
    simp only [List.length_append, List.length_cons, List.length_nil] at hlen
    omega

/-- A colon at the end of the first part counts as the beginning of the second one. -/
theorem join_colon (file part : List Char) (rest : List (List Char)) :
    [':', ':'].intercalate ((file ++ [':']) :: part :: rest) =
      [':', ':'].intercalate (file :: (':' :: part) :: rest) := by
  cases rest <;> simp

end Naming

namespace NodeId

open Naming Text

variable {n : NodeId}

theorem toList_text (n : NodeId) : n.text.toList =
    [':', ':'].intercalate (n.file.toList :: n.classes.map String.toList ++ [n.test.toList]) := by
  simp [text, separator]

/-- Brackets and a function without a colon let no double colon begin outside of parameters. -/
theorem infix_test_iff (hn : n.Proper) : [':', ':'] <:+: n.test.toList ↔
    ∃ parameters, n.parameters = some parameters ∧ separator.toList <:+: parameters.toList := by
  have hf := hn.function
  cases hp : n.parameters with
  | none =>
    have ht : n.test = n.function := by rw [test, hp]
    rw [ht]
    exact iff_of_false (uncut_of_notMem hf).not_isInfix (by simp)
  | some parameters =>
    have ht : n.test.toList = (n.function.toList ++ ['[']) ++ (parameters.toList ++ [']']) := by
      rw [test, hp]
      simp
    have hl : ¬ [':', ':'] <:+ parameters.toList ++ [']'] := by
      rw [← List.reverse_prefix]
      simp
    rw [ht, infix_append_iff_of_notMem (by simp [hf]), List.infix_concat_iff, or_iff_right hl]
    simp [separator]

theorem read_text (hn : n.Proper) : String.ofList (nodeFile n.text.toList) = n.fileRead ∧
    (nodeTest n.text.toList = n.test.toList ↔ ¬ n.Garbled) := by
  have hfile : ¬ [':', ':'] <:+: n.file.toList := hn.file
  have hclasses : ∀ name ∈ n.classes.map String.toList, Uncut [':', ':'] name := by
    simp only [List.forall_mem_map]
    exact fun name hm => uncut_of_notMem (hn.classes name hm).2
  rw [toList_text, Garbled, ← infix_test_iff hn, fileRead]
  by_cases hr : n.RunsOn
  · obtain ⟨file, hq⟩ := List.getLast?_eq_some_iff.mp hr
    have hf : Uncut [':', ':'] file := by rwa [hq] at hfile
    rw [if_pos hr, hq, List.dropLast_concat]
    cases hc : n.classes with
    | nil =>
      have hjoin : [':', ':'].intercalate
            ((file ++ [':']) :: [].map String.toList ++ [n.test.toList]) =
          [':', ':'].intercalate (file :: [] ++ [':' :: n.test.toList]) := join_colon file _ []
      obtain ⟨hfirst, hlast⟩ := read_join hf (List.forall_mem_nil _) (':' :: n.test.toList)
      rw [hjoin, hfirst, hlast]
      exact ⟨rfl, iff_of_false nodeTest_colon_cons_ne (not_not_intro (.inr ⟨hr, rfl⟩))⟩
    | cons name names =>
      rw [hc, List.map_cons] at hclasses
      obtain ⟨-, hnames⟩ := List.forall_mem_cons.mp hclasses
      have hname := hn.classes name (hc ▸ List.mem_cons_self)
      have hu : Uncut [':', ':'] (':' :: name.toList) :=
        uncut_colon_cons (by simp [hname.1]) hname.2
      have hjoin : [':', ':'].intercalate
            ((file ++ [':']) :: (name :: names).map String.toList ++ [n.test.toList]) =
          [':', ':'].intercalate
            (file :: (':' :: name.toList) :: names.map String.toList ++ [n.test.toList]) :=
        join_colon file _ _
      obtain ⟨hfirst, hlast⟩ :=
        read_join hf (List.forall_mem_cons.mpr ⟨hu, hnames⟩) n.test.toList
      rw [hjoin, hfirst, hlast, nodeTest_eq_iff]
      simp
  · have hf := uncut_of_getLast?_ne hfile hr
    obtain ⟨hfirst, hlast⟩ := read_join hf hclasses n.test.toList
    rw [if_neg hr, hfirst, hlast, nodeTest_eq_iff]
    simp [hr]

section Announced

variable {site : Callsite} {phase : Phase}
    (h : Entries.get? site.env announcementKey = some (n.announcement phase))

include h

theorem announcement?_eq : announcement? site = some (n.announcement phase) := by
  have hne : (n.announcement phase).isEmpty = false := by simp [announcement]
  rw [announcement?, h, Config.nonEmpty?, Option.filter_some, hne]
  rfl

/-- The phase is taken off the end, whatever brackets stand before it. -/
theorem nodeId?_eq : nodeId? site = some n.text.toList := by
  have hphase : beforeLast? [' ', '('] (" (" ++ phase.name ++ ")").toList = some [] := by
    cases phase <;> rfl
  have hcut : beforeLast? [' ', '('] (n.announcement phase).toList = some n.text.toList := by
    have := beforeLast?_append hphase n.text.toList
    simpa [announcement] using this
  have htext : n.text.toList.isEmpty = false := by
    have hne : n.classes.map String.toList ++ [n.test.toList] ≠ [] := by simp
    obtain ⟨part, rest, hr⟩ := List.exists_cons_of_ne_nil hne
    rw [toList_text, List.cons_append, hr, List.intercalate_cons_cons]
    simp
  rw [nodeId?, announcement?_eq h]
  simp only [Option.bind_eq_bind, Option.bind_some, hcut, Option.getD_some, htext]
  rfl

end Announced

theorem test_eq_iff (n : NodeId) (parameters : Option String) :
    { n with parameters }.test = n.test ↔ parameters = n.parameters := by
  obtain ⟨file, classes, function, own⟩ := n
  cases parameters <;> cases own <;> simp [test, ← String.toList_inj]

/-- From the node that a runner announces, the names of the session are those of its file, and
the test has its whole name unless the node is garbled. -/
theorem announced_node_read {site : Callsite} {phase : Phase} (hn : n.Proper)
    (h : Entries.get? site.env announcementKey = some (n.announcement phase)) :
    let path := FilePath.ofString n.fileRead
    let folder := path.parent.name
    strategy site = .announced ∧
      announcedSettings site = some {
        project := some (if folder.isEmpty then site.directory.name else folder)
        job := some path.stem } ∧
      (announcedTest site = some n.test ↔ ¬ n.Garbled) ∧
      ∀ parameters, { n with parameters }.test = n.test ↔ parameters = n.parameters := by
  intro path folder
  obtain ⟨hfile, htest⟩ := read_text hn
  have hid := nodeId?_eq h
  refine ⟨?_, ?_, ?_, n.test_eq_iff⟩
  · rw [strategy, announcement?_eq h]
    rfl
  · rw [announcedSettings, hid]
    exact congrArg (some <| fileSettings site ·) hfile
  · rw [announcedTest, hid, ← htest, Option.some.injEq, ← String.toList_inj, String.toList_ofList]

def loginNode (parameters : String) : NodeId :=
  ⟨"tests/web/test_login.py", ["TestLogin"], "test_ok", some parameters⟩

def loginSite (parameters : String) : Callsite :=
  { env := [(announcementKey, (loginNode parameters).announcement .call)]
    directory := .ofString "/cwd/suite" }

/-- Brackets, blanks and single colons in parameters do no harm. -/
theorem login_node_read :
    let n := loginNode "a: (b) [c]"
    n.Proper ∧
      Entries.get? (loginSite "a: (b) [c]").env announcementKey = some (n.announcement .call) ∧
      announcedSettings (loginSite "a: (b) [c]") =
        some { project := some "web", job := some "test_login" } ∧
      announcedTest (loginSite "a: (b) [c]") = some "test_ok[a: (b) [c]]" := by
  intro n
  have hn : n.Proper := ⟨by decide, by decide, by decide⟩
  obtain ⟨-, hs, ht, -⟩ := @announced_node_read n (loginSite "a: (b) [c]") .call hn rfl
  refine ⟨hn, rfl, hs.trans (by decide +kernel), ht.mpr ?_⟩
  rintro (⟨parameters, hp, hi⟩ | ⟨hr, -⟩)
  · obtain rfl := Option.some.inj hp
    exact absurd hi (by decide)
  · exact absurd hr (by decide)

/-- Of parameters with a double colon only the end is left, which tells no test. -/
theorem test_cut_in_parameters :
    (loginNode "a::b").Proper ∧ (loginNode "a::b").test = "test_ok[a::b]" ∧
      announcedTest (loginSite "a::b") = some "b]" ∧
      announcedTest (loginSite "c::b") = some "b]" := by
  refine ⟨⟨by decide, by decide, by decide⟩, by decide, ?_⟩
  decide +kernel

end NodeId

end AgentReporting
