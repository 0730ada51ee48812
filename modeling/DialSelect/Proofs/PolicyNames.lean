/-
# DialSelect.Proofs.PolicyNames -- names of policies are read back

The canonical name of a policy is one of its spellings, so reading it gives the policy
back (`Policy.read_name`), for every policy but a limit that is zero or no count.  Such a
limit is never read (`Policy.acceptable_of_read`), and no two policies share a name, not
even those (`Policy.name_injective`).

The same holds of lists of names.  A list of policies is shown as an array of texts in the
JSON text of a selection.  Written into a configuration file as it stands
(`ConfigFile.read?_policyText`), or name by name on the command line
(`CommandLine.read_policyArgs`), it sets the policies that it shows.
-/
import DialSelect.Execute
import DialSelect.Policy.Datum
import DialSelect.Proofs.DocumentLines
import DialSelect.Proofs.FrontOptions
import DialSelect.Proofs.PolicyGrammar
import DialSelect.Proofs.Precedence
import DialSelect.Proofs.Runs

namespace DialSelect

set_option autoImplicit false

namespace Policy

/-! ## Names -/

/-- A policy whose limit, if it has one, is positive and a count. -/
def Acceptable : Policy → Prop
  | .pick (.atMost max) => 0 < max ∧ max < Numeral.countBound
  | _ => True

instance (policy : Policy) : Decidable policy.Acceptable :=
  match policy with
  | .pick (.atMost max) => inferInstanceAs (Decidable (0 < max ∧ max < Numeral.countBound))
  | .pick .default | .pick .all | .pick .first | .pick .firstEach | .pick (.firstOf _)
  | .pick (.only _) | .pick .reverse | .shuffle => isTrue trivial

theorem mem_plain_or_atMost (policy : Policy) :
    policy ∈ plain ∨ ∃ max, policy = .pick (.atMost max) := by
  cases policy with
  | shuffle => exact .inl (by decide)
  | pick rule =>
      cases rule with
      | default | all | first | firstEach | reverse => exact .inl (by decide)
      | firstOf kind | only kind => cases kind <;> exact .inl (by decide)
      | atMost max => exact .inr ⟨max, rfl⟩

theorem toList_name_atMost (max : Nat) :
    (name (.pick (.atMost max))).toList = limitWord ++ ':' :: Numeral.decimal max :=
  String.toList_ofList

def nameLetters : List Char :=
  (plain.flatMap fun policy => policy.name.toList) ++ limitWord ++ ':' :: Numeral.letters 10

theorem name_subset (policy : Policy) : policy.name.toList ⊆ nameLetters := by
  rcases mem_plain_or_atMost policy with member | ⟨max, rfl⟩
  · intro c inside
    exact List.mem_append_left _ (List.mem_append_left _
      (List.mem_flatMap.2 ⟨policy, member, inside⟩))
  · rw [toList_name_atMost, nameLetters, List.append_assoc]
    refine List.subset_append_of_subset_right _ (List.append_subset.2 ⟨?_, ?_⟩)
    · exact List.subset_append_left _ _
    · refine List.subset_append_of_subset_right _ (List.cons_subset_cons _ ?_)
      exact Numeral.decimal_subset max

theorem nameLetters_plain : ∀ c ∈ nameLetters, Text.isBlank c = false ∧ c ≠ '\x7F' :=
  Text.forall_mem_of_all (by decide)

/-- A name says what policy it is of. -/
theorem written_name {policy : Policy} (acceptable : policy.Acceptable) :
    Written policy.name.toList policy := by
  rcases mem_plain_or_atMost policy with member | ⟨max, rfl⟩
  · have table : ∀ policy ∈ plain, (policy.name, policy) ∈ vocabulary ∧
        policy.name.toList.map fold = policy.name.toList := by decide
    exact .word (table policy member).1 (table policy member).2
  · rw [toList_name_atMost]
    have counted := Numeral.writtenCount_decimal acceptable.2
    exact .limit rfl rfl ⟨[], Numeral.decimal max, rfl, nofun, counted, acceptable.1⟩

theorem read_name {policy : Policy} (acceptable : policy.Acceptable) :
    read policy.name = .ok policy := by
  have solid : Text.Solid policy.name.toList := fun c member =>
    (nameLetters_plain c (name_subset policy member)).1
  rw [read_eq_ok_iff, Text.trim_of_solid solid]
  exact written_name acceptable

theorem acceptable_of_read {text : String} {policy : Policy} (accepted : read text = .ok policy) :
    policy.Acceptable := by
  cases read_eq_ok_iff.1 accepted with
  | @word name _ entry _ =>
      have table : ∀ entry ∈ vocabulary, entry.2.Acceptable := by decide
      exact table (name, policy) entry
  | limit parts same limit =>
      obtain ⟨_, _, _, _, counted, positive⟩ := limit
      obtain ⟨_, _, _, _, _, _, _, inRange⟩ := counted
      exact ⟨positive, inRange⟩

theorem name_injective {policy other : Policy} (same : policy.name = other.name) :
    policy = other := by
  have apart : ∀ policy ∈ plain, ¬ limitWord <+: policy.name.toList := by decide
  have marked (max : Nat) : limitWord <+: (name (.pick (.atMost max))).toList :=
    ⟨_, (toList_name_atMost max).symm⟩
  rcases mem_plain_or_atMost policy with member | ⟨max, rfl⟩
  · rcases mem_plain_or_atMost other with member' | ⟨max, rfl⟩
    · have found := ofPlainName?_of_mem member
      rw [same, ofPlainName?_of_mem member'] at found
      exact (Option.some.inj found).symm
    · exact absurd (same ▸ marked max) (apart policy member)
  · rcases mem_plain_or_atMost other with member | ⟨max', rfl⟩
    · exact absurd (same ▸ marked max) (apart other member)
    · have digits := congrArg String.toList same
      rw [toList_name_atMost, toList_name_atMost, List.append_cancel_left_eq, List.cons.injEq]
        at digits
      rw [Numeral.decimal_injective digits.2]

/-! ## Structured data -/

theorem acceptable_of_ofDatum {datum : Datum} {policy : Policy}
    (accepted : ofDatum datum = .ok policy) : policy.Acceptable := by
  cases datum with
  | text text => exact acceptable_of_read (FirstFault.mapError_eq_ok_iff.1 accepted)
  | null | boolean _ | integer _ | real _ | sequence | map => cases accepted

theorem ofDatum_toDatum {policy : Policy} (acceptable : policy.Acceptable) :
    ofDatum policy.toDatum = .ok policy :=
  FirstFault.mapError_eq_ok_iff.2 (read_name acceptable)

end Policy

/-! ## A list in a configuration file -/

namespace ConfigFile

open Toml

/-- The text of a configuration file that sets a list of policies. -/
def policyText (texts : List String) : List Char :=
  "[select]\npolicy = ".toList ++ Selection.renderList texts ++ ['\n']

theorem return_not_mem_renderList (texts : List String) :
    '\r' ∉ Selection.renderList texts := by
  have quoted : ∀ part ∈ texts.map fun text => Text.quote text.toList, '\r' ∉ part := by
    intro part member inside
    obtain ⟨text, -, rfl⟩ := List.mem_map.1 member
    exact absurd (Text.printable_of_mem_quote inside) (by decide)
  have joined : '\r' ∉ Text.joinWith [','] (texts.map fun text => Text.quote text.toList) :=
    Text.not_mem_joinWith (by decide) quoted
  simp [Selection.renderList, joined]

theorem statements?_policyText {texts : List String}
    (allowed : ∀ text ∈ texts, Quotable text.toList) :
    statements? (policyText texts) =
      some [.table ["select"], .assign ["policy"] (.array (texts.map .text))] := by
  have select : BareName "select".toList := ⟨by decide, rfl⟩
  have policy : BareName "policy".toList := ⟨by decide, rfl⟩
  have header : States ('[' :: "select".toList ++ [']']) (.table ["select"]) :=
    states_header select
  have assign : States ("policy".toList ++ ' ' :: '=' :: ' ' :: Selection.renderList texts)
      (.assign ["policy"] (.array (texts.map .text))) :=
    states_assign policy (fun _ => rfl) (fun rest => value?_renderList 79 allowed ('\n' :: rest))
      (return_not_mem_renderList texts)
  have lines : policyText texts = lineText ['[' :: "select".toList ++ [']'],
      "policy".toList ++ ' ' :: '=' :: ' ' :: Selection.renderList texts] := by
    rw [lineText_cons, lineText_cons, List.append_assoc]
    rfl
  rw [lines]
  exact statements?_of_say (.states header (.states assign .nil)) rfl

theorem read?_policyText {texts : List String} (allowed : ∀ text ∈ texts, Quotable text.toList) :
    read? (String.ofList (policyText texts)) = some { empty with policy := texts } := by
  have document : Toml.read? (policyText texts) =
      some [("select", .table [("policy", .array (texts.map .text))])] := by
    rw [Toml.read?, statements?_policyText allowed]
    rfl
  have policy : optional Value.texts? (some (.array (texts.map .text))) = some (some texts) := by
    rw [optional, texts?_array]
    rfl
  have select : select? (some (.table [("policy", .array (texts.map .text))])) =
      some (none, texts, none) := by
    change (optional Value.texts? (some (.array (texts.map .text)))).bind _ = _
    rw [policy]
    rfl
  unfold read?
  rw [String.toList_ofList, document]
  change (select? (some (.table [("policy", .array (texts.map .text))]))).bind _ = _
  rw [select]
  rfl

end ConfigFile

/-! ## A list on the command line -/

namespace CommandLine

/-- The arguments that give a list of policies. -/
def policyArgs (texts : List String) : List String :=
  texts.flatMap fun text => ["--policy", text]

/-- An option for a policy waits for the next argument and takes it, unless that is an option
itself. -/
theorem readFrom_policy {text : String} (plain : Form.of text = .plain) {progress : Progress}
    {line : CommandLine} (settled : progress.settle = .ok line) (rest : List String) :
    readFrom progress ("--policy" :: text :: rest) =
      readFrom ⟨line, some (.policy, some text), false⟩ rest := by
  have form : Form.of "--policy" = .long "policy" none := rfl
  have waits : progress.long "policy" none = .ok ⟨line, some (.policy, none), false⟩ :=
    FirstFault.bind_eq_ok_iff.2 ⟨_, settled, rfl⟩
  rw [readFrom_long form waits, readFrom_wanted plain]

/-- Texts that are no options are taken as policies one after the other. -/
theorem readFrom_policyArgs {texts : List String} (plain : ∀ text ∈ texts, Form.of text = .plain)
    {progress : Progress} {line : CommandLine} (settled : progress.settle = .ok line) :
    readFrom progress (policyArgs texts) =
      .ok { line with policies := line.policies ++ texts } := by
  induction texts generalizing progress line with
  | nil =>
      rw [List.append_nil]
      exact settled
  | cons text others ih =>
      obtain ⟨here, later⟩ := List.forall_mem_cons.1 plain
      have taken : Progress.settle ⟨line, some (.policy, some text), false⟩ =
          .ok { line with policies := line.policies ++ [text] } := rfl
      have args : policyArgs (text :: others) = "--policy" :: text :: policyArgs others := rfl
      rw [args, readFrom_policy here settled, ih later taken, List.append_assoc]
      rfl

theorem read_policyArgs {texts : List String} (plain : ∀ text ∈ texts, Form.of text = .plain) :
    read (policyArgs texts) = .ok { empty with policies := texts } :=
  readFrom_policyArgs plain rfl

end CommandLine

/-! ## Lists of policies -/

namespace Policy

theorem quotable_name (policy : Policy) : Toml.Quotable policy.name.toList :=
  fun c member => (nameLetters_plain c (name_subset policy member)).2

/-- No name is taken for an option. -/
theorem form_name (policy : Policy) : CommandLine.Form.of policy.name = .plain := by
  rcases mem_plain_or_atMost policy with member | ⟨max, rfl⟩
  · have table : ∀ policy ∈ plain, CommandLine.Form.of policy.name = .plain := by decide
    exact table policy member
  · unfold CommandLine.Form.of
    rw [toList_name_atMost]
    rfl

end Policy

namespace Settings

theorem readPolicies_names {policies : List Policy}
    (acceptable : ∀ policy ∈ policies, policy.Acceptable) :
    readPolicies (policies.map Policy.name) = .ok policies := by
  rw [readPolicies_eq_ok_iff, List.map_map]
  exact List.map_congr_left fun policy member => Policy.read_name (acceptable policy member)

/-- Where the texts in effect are names, their policies are in effect. -/
theorem mergePolicy_names {policies : List Policy} (nonempty : policies ≠ [])
    (acceptable : ∀ policy ∈ policies, policy.Acceptable) {line : CommandLine} {file : ConfigFile}
    (texts : (if line.policies.isEmpty then file.policy else line.policies) =
      policies.map Policy.name) : mergePolicy line file = .ok policies := by
  have more : (policies.map Policy.name).isEmpty = false := by simpa using nonempty
  unfold mergePolicy
  rw [texts]
  dsimp only
  rw [more, if_neg Bool.false_ne_true]
  exact readPolicies_names acceptable

/-- Where the file gives nothing else, nothing else can be refused. -/
theorem policy_of_mergePolicy {line : CommandLine} {file : ConfigFile} {policies : List Policy}
    (network : file.network = none) (format : file.format = none)
    (chosen : mergePolicy line file = .ok policies) :
    (merge line (some file)).map Settings.policy = .ok policies := by
  have networkRead : mergeNetwork line file = .ok (line.network.getD defaultNetwork) := by
    unfold mergeNetwork
    rw [network]
    cases line.network <;> rfl
  have formatRead : mergeFormat line file = .ok (line.format.getD defaultFormat) := by
    unfold mergeFormat
    rw [format]
    cases line.format <;> rfl
  have merged : merge line (some file) = .ok ⟨line.network.getD defaultNetwork, policies,
      line.seed.or file.seed, line.format.getD defaultFormat, line.addrs, line.verbose⟩ :=
    merge_eq_ok_iff.2 ⟨networkRead, chosen, formatRead, rfl, rfl, rfl⟩
  rw [merged]
  rfl

theorem acceptable_of_merge {line : CommandLine} {file : Option ConfigFile} {settings : Settings}
    (merged : merge line file = .ok settings) : ∀ policy ∈ settings.policy, policy.Acceptable := by
  intro policy member
  obtain ⟨text, -, accepted⟩ := exists_read_of_merge merged member
  exact Policy.acceptable_of_read accepted

end Settings

theorem Run.policy_of_execute {settings : Settings} {input : Input} {σ : Type}
    {unseeded : Permuter σ} {state : σ} {selection : Selection}
    (selected : (execute settings input unseeded state).outcome = .ok selection) :
    selection.policy = settings.policy := by
  obtain ⟨texts, found, -⟩ := exists_of_execute selected
  exact (asked_of_execute found selected).2.1

/-- The names of a selection's policies stand as an array in its JSON text. -/
theorem Selection.exists_renderJson_eq (selection : Selection) :
    ∃ before after, selection.renderJson =
      before ++ renderMember "policy" (renderList (selection.policy.map Policy.name)) ++ after := by
  let member (name : String) (value : List Char) := renderMember name value
  refine ⟨'\x7b' :: member "network" (Text.quote selection.network.name.toList) ++
    ',' :: member "input" (Numeral.decimal selection.input) ++ [','],
    ',' :: member "selected" (renderList selection.selected) ++ ['\x7d'], ?_⟩
  simp only [renderJson, Text.joinWith, member, List.append_assoc, List.cons_append,
    List.nil_append]

/-- **What a policy is called is a policy.**  Reading the name of an acceptable policy gives
that policy, as a text and in structured data; whatever is read is acceptable, so its name
is read again, and no limit of zero is ever read.  No two policies share a name.

The policies of a run's selection are acceptable, and not none.  Their names stand as an
array in the JSON text of the selection.  As a list of policies in a configuration file,
where the command line gives none, and as policies on the command line, whatever the file
gives, this array sets the same policies in the same order. -/
theorem Policy.names_given_back :
    (∀ policy : Policy, policy.Acceptable →
      read policy.name = .ok policy ∧ ofDatum policy.toDatum = .ok policy) ∧
    (∀ (text : String) (policy : Policy), read text = .ok policy →
      policy.Acceptable ∧ read policy.name = .ok policy) ∧
    (∀ (datum : Datum) (policy : Policy), ofDatum datum = .ok policy → policy.Acceptable) ∧
    ¬ (Policy.pick (.atMost 0)).Acceptable ∧
    (∀ policy other : Policy, policy.name = other.name → policy = other) ∧
    (∀ (line : CommandLine) (file : Option ConfigFile) (settings : Settings) (input : Input)
      (σ : Type) (unseeded : Permuter σ) (state : σ) (selection : Selection),
      Settings.merge line file = .ok settings →
      (execute settings input unseeded state).outcome = .ok selection →
        selection.policy ≠ [] ∧ ∀ policy ∈ selection.policy, policy.Acceptable) ∧
    ∀ selection : Selection, selection.policy ≠ [] →
      (∀ policy ∈ selection.policy, policy.Acceptable) →
        let names := selection.policy.map name
        (∃ before after, selection.renderJson =
          before ++ Selection.renderMember "policy" (Selection.renderList names) ++ after) ∧
        (∃ file, ConfigFile.read? (String.ofList (ConfigFile.policyText names)) = some file ∧
          ∀ line : CommandLine, line.policies = [] →
            (Settings.merge line (some file)).map Settings.policy = .ok selection.policy) ∧
        ∃ line, CommandLine.read (CommandLine.policyArgs names) = .ok line ∧
          (∀ file, Settings.mergePolicy line file = .ok selection.policy) ∧
          (Settings.merge line none).map Settings.policy = .ok selection.policy := by
  refine ⟨fun policy acceptable => ⟨read_name acceptable, ofDatum_toDatum acceptable⟩,
    fun text policy accepted => ?_, fun datum policy => acceptable_of_ofDatum, by decide,
    fun policy other => name_injective, ?_, ?_⟩
  · exact ⟨acceptable_of_read accepted, read_name (acceptable_of_read accepted)⟩
  · intro line file settings input σ unseeded state selection merged selected
    rw [Run.policy_of_execute selected]
    exact ⟨Settings.mergePolicy_ne_nil (Settings.policy_of_merge merged),
      Settings.acceptable_of_merge merged⟩
  · intro selection nonempty acceptable names
    have allowed : ∀ text ∈ names, Toml.Quotable text.toList := by
      intro text member
      obtain ⟨policy, -, rfl⟩ := List.mem_map.1 member
      exact quotable_name policy
    have plain : ∀ text ∈ names, CommandLine.Form.of text = .plain := by
      intro text member
      obtain ⟨policy, -, rfl⟩ := List.mem_map.1 member
      exact form_name policy
    have given : names.isEmpty = false := by simpa [names] using nonempty
    have chosen (file : ConfigFile) :
        Settings.mergePolicy { CommandLine.empty with policies := names } file =
          .ok selection.policy :=
      Settings.mergePolicy_names nonempty acceptable (by simp only [given]; rfl)
    refine ⟨?_, ⟨_, ConfigFile.read?_policyText allowed, fun line free => ?_⟩,
      ⟨_, CommandLine.read_policyArgs plain, fun file => ?_, ?_⟩⟩
    · exact selection.exists_renderJson_eq
    · refine Settings.policy_of_mergePolicy rfl rfl ?_
      exact Settings.mergePolicy_names nonempty acceptable (by rw [free]; rfl)
    · exact chosen file
    · exact Settings.policy_of_mergePolicy rfl rfl (chosen .empty)

def Selection.upToTwo : Selection :=
  ⟨.tcp, 3, [.pick (.firstOf .v6), .shuffle, .pick (.atMost 2)], ["[2001:db8::a]:443"]⟩

theorem Policy.names_given_back_upToTwo :
    read "max:18446744073709551615" = .ok (.pick (.atMost 18446744073709551615)) ∧
    Selection.upToTwo.policy ≠ [] ∧ (∀ policy ∈ Selection.upToTwo.policy, policy.Acceptable) ∧
    (∃ file, ConfigFile.read? "[select]\npolicy = [\"first-ipv6\",\"shuffle\",\"max:2\"]\n" =
        some file ∧
      (Settings.merge .empty (some file)).map Settings.policy = .ok Selection.upToTwo.policy) ∧
    ∃ line, CommandLine.read ["--policy", "first-ipv6", "--policy", "shuffle", "--policy", "max:2"] =
        .ok line ∧
      (Settings.merge line none).map Settings.policy = .ok Selection.upToTwo.policy := by
  obtain ⟨names, -, -, -, -, -, lists⟩ := names_given_back
  have nonempty : Selection.upToTwo.policy ≠ [] := by decide
  have acceptable : ∀ policy ∈ Selection.upToTwo.policy, policy.Acceptable := by decide
  obtain ⟨-, ⟨file, given, fromFile⟩, line, args, -, fromLine⟩ := lists _ nonempty acceptable
  exact ⟨(names (.pick (.atMost 18446744073709551615)) (by decide)).1, nonempty, acceptable,
    ⟨file, given, fromFile .empty rfl⟩, line, args, fromLine⟩

end DialSelect
