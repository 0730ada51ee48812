/-
# DialSelect.Proofs.Precedence -- which values are in effect

A value of the command line counts before one of the file, and that before the default; of
the two lists of policies the first that is not empty counts, as a whole.  `Settings.InEffect`
says what texts are in effect that way, a value of the command line being told by its name.

Merging reads these texts and no others.  It succeeds exactly when each of them can be read
(`Settings.merge_eq_ok_iff_means`), and otherwise its error is about the first that cannot
(`Settings.merge_eq_error_iff_blames`).  What the command line overrides is not among them,
so a file may say anything there (`Settings.inEffect_of_agree`).
-/
import DialSelect.Settings

namespace DialSelect

set_option autoImplicit false

theorem Network.read?_name (network : Network) : read? network.name = some network := by
  cases network <;> rfl

theorem OutputFormat.read?_name (format : OutputFormat) : read? format.name = some format := by
  cases format <;> rfl

theorem Policy.ne_atMost_zero_of_read {text : String} {policy : Policy}
    (accepted : Policy.read text = .ok policy) : policy ≠ .pick (.atMost 0) := by
  rintro rfl
  unfold Policy.read at accepted
  dsimp only at accepted
  split at accepted
  · split at accepted
    · rename_i limit read
      cases accepted
      exact absurd (pos_of_readLimit read) (Nat.lt_irrefl 0)
    · cases accepted
  · split at accepted
    · rename_i policy found
      cases accepted
      exact absurd (List.mem_of_find?_eq_some found) (by decide)
    · cases accepted

namespace Settings

/-! ## The values in effect -/

/-- The values that are in effect, as texts but for the seed, which is a number already. -/
structure InEffect where
  network : String
  policy : List String
  seed : Option Nat
  format : String
  deriving DecidableEq, Repr

/-- The name of the value on the command line if there is one, else the text in the file if
there is one, else the name of the default. -/
def textInEffect {α : Type} (name : α → String) (typed : Option α) (given : Option String)
    (default : α) : String :=
  ((typed.map name).or given).getD (name default)

/-- The values in effect under a command line and perhaps a file. -/
def inEffect (line : CommandLine) (file : Option ConfigFile) : InEffect where
  network := textInEffect Network.name line.network (file.bind ConfigFile.network) defaultNetwork
  policy :=
    if line.policies ≠ [] then line.policies
    else match file.map ConfigFile.policy with
      | none | some [] => [defaultPolicy.name]
      | some policies => policies
  seed := line.seed.or (file.bind ConfigFile.seed)
  format := textInEffect OutputFormat.name line.format (file.bind ConfigFile.format) defaultFormat

/-- Read a text, or say what is wrong with it. -/
def readText {α : Type} (read? : String → Option α) (fault : String → SettingsError)
    (text : String) : Except SettingsError α :=
  match read? text with
  | some value => .ok value
  | none => .error (fault text)

section ReadText

variable {α : Type} {read? : String → Option α} {fault : String → SettingsError} {text : String}

theorem readText_eq_ok_iff {value : α} :
    readText read? fault text = .ok value ↔ read? text = some value := by
  unfold readText
  cases read? text <;> simp

theorem readText_eq_error_iff {error : SettingsError} :
    readText read? fault text = .error error ↔ read? text = none ∧ error = fault text := by
  unfold readText
  cases read? text <;> simp [eq_comm]

/-- A value on the command line and the default are read as themselves, so only a text in the
file can be refused. -/
theorem readText_textInEffect {name : α → String} (named : ∀ value, read? (name value) = some value)
    (typed : Option α) (given : Option String) (default : α) :
    readText read? fault (textInEffect name typed given default) =
      typed.elim (given.elim (.ok default) (readText read? fault)) .ok := by
  cases typed with
  | some value => exact readText_eq_ok_iff.2 (named value)
  | none =>
      cases given with
      | some text => rfl
      | none => exact readText_eq_ok_iff.2 (named default)

end ReadText

section Merging

variable (line : CommandLine) (file : Option ConfigFile)

theorem mergeNetwork_eq : mergeNetwork line (file.getD .empty) =
    readText Network.read? .network (inEffect line file).network := by
  have networks : (file.getD .empty).network = file.bind ConfigFile.network := by
    cases file <;> rfl
  unfold mergeNetwork inEffect
  rw [networks, readText_textInEffect Network.read?_name]
  cases line.network with
  | some network => rfl
  | none =>
      cases file.bind ConfigFile.network with
      | none => rfl
      | some text =>
          dsimp only [Option.elim, readText]
          cases Network.read? text <;> rfl

theorem mergePolicy_eq : mergePolicy line (file.getD .empty) =
    readPolicies (inEffect line file).policy := by
  have unset : readPolicies [defaultPolicy.name] = .ok [defaultPolicy] := rfl
  unfold mergePolicy inEffect
  cases line.policies with
  | cons text others => rfl
  | nil =>
      cases file with
      | none => exact unset.symm
      | some file => cases file with
        | mk network policy seed format => cases policy with
          | nil => exact unset.symm
          | cons text others => rfl

theorem mergeFormat_eq : mergeFormat line (file.getD .empty) =
    readText OutputFormat.read? .format (inEffect line file).format := by
  have formats : (file.getD .empty).format = file.bind ConfigFile.format := by
    cases file <;> rfl
  unfold mergeFormat inEffect
  rw [formats, readText_textInEffect OutputFormat.read?_name]
  cases line.format with
  | some format => rfl
  | none =>
      cases file.bind ConfigFile.format with
      | none => rfl
      | some text =>
          dsimp only [Option.elim, readText]
          cases OutputFormat.read? text <;> rfl

theorem seed_inEffect : (inEffect line file).seed = line.seed.or (file.getD .empty).seed := by
  cases file <;> rfl

end Merging

/-! ## Policies in effect -/

theorem readPolicy_eq_ok_iff {text : String} {policy : Policy} :
    readPolicy text = .ok policy ↔ Policy.read text = .ok policy :=
  FirstFault.mapError_eq_ok_iff

theorem readPolicy_eq_error_iff {text : String} {error : SettingsError} :
    readPolicy text = .error error ↔
      ∃ fault, Policy.read text = .error fault ∧ error = .policy text fault :=
  FirstFault.mapError_eq_error_iff

theorem readPolicies_eq_ok_iff {texts : List String} {policies : List Policy} :
    readPolicies texts = .ok policies ↔ texts.map Policy.read = policies.map .ok := by
  rw [readPolicies, FirstFault.mapM_eq_ok_iff]
  induction texts generalizing policies with
  | nil => cases policies <;> simp
  | cons text others ih =>
      cases policies with
      | nil => simp
      | cons policy rest =>
          simp only [List.map_cons, List.cons.injEq, ih, readPolicy_eq_ok_iff]

/-- The first entry that is no policy is blamed, with its own text. -/
theorem readPolicies_eq_error_iff {texts : List String} {error : SettingsError} :
    readPolicies texts = .error error ↔ ∃ before text after fault, texts = before ++ text :: after ∧
      (∀ earlier ∈ before, ∃ policy, Policy.read earlier = .ok policy) ∧
      Policy.read text = .error fault ∧ error = .policy text fault := by
  simp only [readPolicies, FirstFault.mapM_eq_error_iff, readPolicy_eq_ok_iff,
    readPolicy_eq_error_iff]
  constructor
  · rintro ⟨before, text, after, parts, good, fault, refused, same⟩
    exact ⟨before, text, after, fault, parts, good, refused, same⟩
  · rintro ⟨before, text, after, fault, parts, good, refused, same⟩
    exact ⟨before, text, after, parts, good, fault, refused, same⟩

/-! ## Merging -/

/-- These settings are what the values in effect say. -/
structure InEffect.Means (values : InEffect) (settings : Settings) : Prop where
  network : Network.read? values.network = some settings.network
  policy : values.policy.map Policy.read = settings.policy.map .ok
  seed : values.seed = settings.seed
  format : OutputFormat.read? values.format = some settings.format

def InEffect.Invalid (values : InEffect) : Prop :=
  Network.read? values.network = none ∨
    (∃ text ∈ values.policy, ∃ fault, Policy.read text = .error fault) ∨
    OutputFormat.read? values.format = none

/-- The error is about the first of the values in effect that cannot be read: the network,
the policies from left to right, the format. -/
inductive InEffect.Blames (values : InEffect) : SettingsError → Prop where
  | network (unread : Network.read? values.network = none) : Blames values (.network values.network)
  | policy {before after : List String} {text : String} {fault : PolicyError}
      (network : (Network.read? values.network).isSome)
      (parts : values.policy = before ++ text :: after)
      (read : ∀ earlier ∈ before, ∃ policy, Policy.read earlier = .ok policy)
      (unread : Policy.read text = .error fault) : Blames values (.policy text fault)
  | format (network : (Network.read? values.network).isSome)
      (read : ∀ text ∈ values.policy, ∃ policy, Policy.read text = .ok policy)
      (unread : OutputFormat.read? values.format = none) : Blames values (.format values.format)

theorem merge_eq_ok_iff {line : CommandLine} {file : Option ConfigFile} {settings : Settings} :
    merge line file = .ok settings ↔
      mergeNetwork line (file.getD .empty) = .ok settings.network ∧
      mergePolicy line (file.getD .empty) = .ok settings.policy ∧
      mergeFormat line (file.getD .empty) = .ok settings.format ∧
      settings.seed = line.seed.or (file.getD .empty).seed ∧ settings.addrs = line.addrs ∧
      settings.verbose = line.verbose := by
  constructor
  · intro merged
    obtain ⟨network, networkRead, merged⟩ := FirstFault.bind_eq_ok_iff.1 merged
    obtain ⟨policy, policyRead, merged⟩ := FirstFault.bind_eq_ok_iff.1 merged
    obtain ⟨format, formatRead, built⟩ := FirstFault.bind_eq_ok_iff.1 merged
    obtain rfl := Except.ok.inj built
    exact ⟨networkRead, policyRead, formatRead, rfl, rfl, rfl⟩
  · rintro ⟨networkRead, policyRead, formatRead, seed, addrs, verbose⟩
    refine FirstFault.bind_eq_ok_iff.2 ⟨_, networkRead, ?_⟩
    refine FirstFault.bind_eq_ok_iff.2 ⟨_, policyRead, ?_⟩
    refine FirstFault.bind_eq_ok_iff.2 ⟨_, formatRead, ?_⟩
    rw [← seed, ← addrs, ← verbose]
    rfl

theorem policy_of_merge {line : CommandLine} {file : Option ConfigFile} {settings : Settings}
    (merged : merge line file = .ok settings) :
    mergePolicy line (file.getD .empty) = .ok settings.policy :=
  (merge_eq_ok_iff.1 merged).2.1

section Merging

variable {line : CommandLine} {file : Option ConfigFile}

theorem merge_eq_ok_iff_means {settings : Settings} :
    merge line file = .ok settings ↔ (inEffect line file).Means settings ∧
      settings.addrs = line.addrs ∧ settings.verbose = line.verbose := by
  rw [merge_eq_ok_iff, mergeNetwork_eq, mergePolicy_eq, mergeFormat_eq, readText_eq_ok_iff,
    readText_eq_ok_iff, readPolicies_eq_ok_iff, ← seed_inEffect]
  constructor
  · rintro ⟨network, policy, format, seed, kept⟩
    exact ⟨⟨network, policy, seed.symm, format⟩, kept⟩
  · rintro ⟨⟨network, policy, seed, format⟩, kept⟩
    exact ⟨network, policy, format, seed.symm, kept⟩

theorem exists_read_of_merge {settings : Settings} (merged : merge line file = .ok settings)
    {policy : Policy} (member : policy ∈ settings.policy) :
    ∃ text ∈ (inEffect line file).policy, Policy.read text = .ok policy := by
  have read := (merge_eq_ok_iff_means.1 merged).1.policy
  exact List.mem_map.1 (read ▸ List.mem_map_of_mem member)

theorem atMost_zero_not_mem {settings : Settings} (merged : merge line file = .ok settings) :
    .pick (.atMost 0) ∉ settings.policy := by
  intro member
  obtain ⟨text, -, accepted⟩ := exists_read_of_merge merged member
  exact Policy.ne_atMost_zero_of_read accepted rfl

/-- The first value in effect that cannot be read decides the error. -/
theorem merge_eq_error_iff_blames {error : SettingsError} :
    merge line file = .error error ↔ (inEffect line file).Blames error := by
  unfold merge
  dsimp only
  rw [mergeNetwork_eq, mergePolicy_eq, mergeFormat_eq]
  generalize inEffect line file = values
  constructor
  · intro failed
    rcases FirstFault.bind_eq_error_iff.1 failed with refused | ⟨network, networkRead, failed⟩
    · obtain ⟨unread, rfl⟩ := readText_eq_error_iff.1 refused
      exact .network unread
    have known : (Network.read? values.network).isSome := by
      rw [readText_eq_ok_iff.1 networkRead]
      rfl
    rcases FirstFault.bind_eq_error_iff.1 failed with refused | ⟨policies, policiesRead, failed⟩
    · obtain ⟨before, text, after, fault, parts, good, unread, rfl⟩ :=
        readPolicies_eq_error_iff.1 refused
      exact .policy known parts good unread
    have good := FirstFault.exists_map_eq_ok_iff.1 ⟨policies, readPolicies_eq_ok_iff.1 policiesRead⟩
    rcases FirstFault.bind_eq_error_iff.1 failed with refused | ⟨format, -, built⟩
    · obtain ⟨unread, rfl⟩ := readText_eq_error_iff.1 refused
      exact .format known good unread
    · cases built
  · intro blames
    cases blames with
    | network unread =>
        exact FirstFault.bind_eq_error_iff.2 (.inl (readText_eq_error_iff.2 ⟨unread, rfl⟩))
    | policy known parts good unread =>
        obtain ⟨network, known⟩ := Option.isSome_iff_exists.1 known
        refine FirstFault.bind_eq_error_iff.2 (.inr ⟨network, readText_eq_ok_iff.2 known, ?_⟩)
        refine FirstFault.bind_eq_error_iff.2 (.inl (readPolicies_eq_error_iff.2 ?_))
        exact ⟨_, _, _, _, parts, good, unread, rfl⟩
    | format known good unread =>
        obtain ⟨network, known⟩ := Option.isSome_iff_exists.1 known
        obtain ⟨policies, good⟩ := FirstFault.exists_map_eq_ok_iff.2 good
        refine FirstFault.bind_eq_error_iff.2 (.inr ⟨network, readText_eq_ok_iff.2 known, ?_⟩)
        refine FirstFault.bind_eq_error_iff.2 (.inr ⟨policies, readPolicies_eq_ok_iff.2 good, ?_⟩)
        exact FirstFault.bind_eq_error_iff.2 (.inl (readText_eq_error_iff.2 ⟨unread, rfl⟩))

theorem exists_error_iff_invalid :
    (∃ error, merge line file = .error error) ↔ (inEffect line file).Invalid := by
  constructor
  · rintro ⟨error, failed⟩
    cases merge_eq_error_iff_blames.1 failed with
    | network unread => exact .inl unread
    | @policy before after text fault _ parts _ unread =>
        have member : text ∈ (inEffect line file).policy := by simp [parts]
        exact .inr (.inl ⟨text, member, fault, unread⟩)
    | format _ _ unread => exact .inr (.inr unread)
  · intro invalid
    cases outcome : merge line file with
    | error error => exact ⟨error, rfl⟩
    | ok settings =>
        obtain ⟨meant, -⟩ := merge_eq_ok_iff_means.1 outcome
        rcases invalid with unread | ⟨text, member, fault, unread⟩ | unread
        · cases meant.network.symm.trans unread
        · have good := FirstFault.exists_map_eq_ok_iff.1 ⟨_, meant.policy⟩
          obtain ⟨policy, read⟩ := good text member
          cases read.symm.trans unread
        · cases meant.format.symm.trans unread

/-- What a merge gives depends on the values in effect and on nothing else of the file. -/
theorem merge_eq_of_inEffect {other : Option ConfigFile}
    (same : inEffect line file = inEffect line other) : merge line file = merge line other := by
  unfold merge
  dsimp only
  rw [mergeNetwork_eq line file, mergePolicy_eq line file, mergeFormat_eq line file,
    ← seed_inEffect line file, mergeNetwork_eq line other, mergePolicy_eq line other,
    mergeFormat_eq line other, ← seed_inEffect line other, same]

end Merging

/-! ## Overriding -/

/-- Two files say the same wherever the command line gives nothing. -/
structure AgreeUnder (line : CommandLine) (file other : ConfigFile) : Prop where
  network : line.network = none → file.network = other.network
  policy : line.policies = [] → file.policy = other.policy
  seed : line.seed = none → file.seed = other.seed
  format : line.format = none → file.format = other.format

theorem inEffect_of_agree {line : CommandLine} {file other : ConfigFile}
    (agree : AgreeUnder line file other) :
    inEffect line (some file) = inEffect line (some other) := by
  obtain ⟨network, policy, seed, format⟩ := agree
  simp only [inEffect, InEffect.mk.injEq, Option.bind_some, Option.map_some]
  refine ⟨?_, ?_, ?_, ?_⟩
  · cases given : line.network with
    | some _ => rfl
    | none => rw [network given]
  · cases given : line.policies with
    | cons _ _ => rfl
    | nil => rw [policy given]
  · cases given : line.seed with
    | some _ => rfl
    | none => rw [seed given]
  · cases given : line.format with
    | some _ => rfl
    | none => rw [format given]

/-- **The command line before the file before the defaults.**  Merging succeeds exactly with
the settings that the values in effect say, the policies read entry by entry in order; it
fails exactly when one of those values cannot be read, and the error is about the first such
one, a policy with its own text and fault.

A value that the command line gives is taken, and a file may say anything in its place: two
files that agree wherever the command line gives nothing lead to the same result.  No file
leads to what an empty one does.  Settings have a policy, and none with a limit of zero. -/
theorem merge_resolves (line : CommandLine) (file : Option ConfigFile) :
    (∀ settings, merge line file = .ok settings ↔ (inEffect line file).Means settings ∧
      settings.addrs = line.addrs ∧ settings.verbose = line.verbose) ∧
    ((∃ error, merge line file = .error error) ↔ (inEffect line file).Invalid) ∧
    (∀ error, merge line file = .error error ↔ (inEffect line file).Blames error) ∧
    (∀ given other, AgreeUnder line given other →
      merge line (some given) = merge line (some other)) ∧
    merge line none = merge line (some .empty) ∧
    ∀ settings, merge line file = .ok settings →
      (∀ network, line.network = some network → settings.network = network) ∧
      (∀ format, line.format = some format → settings.format = format) ∧
      settings.policy ≠ [] ∧ .pick (.atMost 0) ∉ settings.policy := by
  refine ⟨fun settings => merge_eq_ok_iff_means, exists_error_iff_invalid,
    fun error => merge_eq_error_iff_blames,
    fun given other agree => merge_eq_of_inEffect (inEffect_of_agree agree), rfl,
    fun settings merged => ⟨?_, ?_, ?_, atMost_zero_not_mem merged⟩⟩
  · intro network given
    have read := (merge_eq_ok_iff_means.1 merged).1.network
    rw [inEffect, given] at read
    exact Option.some.inj (read.symm.trans network.read?_name)
  · intro format given
    have read := (merge_eq_ok_iff_means.1 merged).1.format
    rw [inEffect, given] at read
    exact Option.some.inj (read.symm.trans format.read?_name)
  · exact mergePolicy_ne_nil (policy_of_merge merged)

end Settings

/-- A command line that gives a network and a policy. -/
def CommandLine.overriding : CommandLine :=
  { CommandLine.empty with network := some .udp, policies := [" ALL "] }

/-- A file whose network is none, and whose second policy is none. -/
def ConfigFile.overridden : ConfigFile :=
  ⟨some "nowhere", ["first", "max:0", "last"], some 7, none⟩

theorem Settings.merge_resolves_overridden :
    AgreeUnder .overriding .overridden { ConfigFile.empty with seed := some 7 } ∧
    merge .overriding (some .overridden) =
      merge .overriding (some { ConfigFile.empty with seed := some 7 }) ∧
    merge .overriding (some .overridden) =
      .ok ⟨.udp, [.pick .all], some 7, .text, [], false⟩ ∧
    merge .empty (some .overridden) = .error (.network "nowhere") ∧
    merge { CommandLine.empty with network := some .udp } (some .overridden) =
      .error (.policy "max:0" (.badLimit "max:0" .zero)) := by
  have agree : AgreeUnder .overriding .overridden { ConfigFile.empty with seed := some 7 } :=
    ⟨nofun, nofun, fun _ => rfl, fun _ => rfl⟩
  obtain ⟨means, -, -, independent, -, -⟩ :=
    merge_resolves .overriding (some .overridden)
  obtain ⟨-, -, blames, -⟩ := merge_resolves .empty (some .overridden)
  obtain ⟨-, -, blamesNext, -⟩ :=
    merge_resolves { CommandLine.empty with network := some .udp } (some .overridden)
  have parts : (inEffect { CommandLine.empty with network := some .udp }
      (some .overridden)).policy = ["first"] ++ "max:0" :: ["last"] := rfl
  have read : ∀ earlier ∈ ["first"], ∃ policy, Policy.read earlier = .ok policy :=
    List.forall_mem_cons.2 ⟨⟨.pick .first, rfl⟩, nofun⟩
  exact ⟨agree, independent _ _ agree, (means _).2 ⟨⟨rfl, rfl, rfl, rfl⟩, rfl, rfl⟩,
    (blames _).2 (.network rfl), (blamesNext _).2 (.policy rfl parts read rfl)⟩

end DialSelect
