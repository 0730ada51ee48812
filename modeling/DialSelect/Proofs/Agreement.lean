/-
# DialSelect.Proofs.Agreement -- what decides a selection

Two permuters agree from two states on when they answer every sequence of questions
alike, whatever they remember (`Permuter.Agree`).  A chain then does the same under
both (`Chain.alike_apply`).

With naturality this says that a choice is decided by the families in their order
and by the permuter's answers: over collections with the same families, of one network
or of two, a chain picks the same positions (`Chain.decided_by_families`).  A run over
`tcp` and a run over `udp` read the same texts alike, so they select the same texts.
-/
import DialSelect.Proofs.Positions
import DialSelect.Proofs.Runs

namespace DialSelect

set_option autoImplicit false

variable {α σ τ : Type}

namespace Permuter

/-- The answers to questions asked one after the other. -/
def answers (permuter : Permuter σ) : List Nat → σ → List (List Nat)
  | [], _ => []
  | n :: sizes, state =>
      (permuter.draw n state).1 :: answers permuter sizes (permuter.draw n state).2

/-- Two permuters answer alike from two states on. -/
def Agree (p : Permuter σ) (s : σ) (q : Permuter τ) (t : τ) : Prop :=
  ∀ sizes, p.answers sizes s = q.answers sizes t

variable {p : Permuter σ} {s : σ} {q : Permuter τ} {t : τ}

theorem Agree.refl (p : Permuter σ) (s : σ) : p.Agree s p s := fun _ => rfl

/-- Permuters that agree give the same order, and agree after it. -/
theorem Agree.draw (agree : p.Agree s q t) (n : Nat) :
    (p.draw n s).1 = (q.draw n t).1 ∧ p.Agree (p.draw n s).2 q (q.draw n t).2 :=
  ⟨(List.cons.inj (agree [n])).1, fun sizes => (List.cons.inj (agree (n :: sizes))).2⟩

end Permuter

/-- Two outcomes are alike under two permuters: the same fault, or the same value and
reports, with permuters that agree from there on. -/
inductive Alike (p : Permuter σ) (q : Permuter τ) :
    Except IndexFault (Applied α σ) → Except IndexFault (Applied α τ) → Prop where
  | error (fault : IndexFault) : Alike p q (.error fault) (.error fault)
  | ok (value : Option (List α)) (events : List Event) {s : σ} {t : τ} (agree : p.Agree s q t) :
      Alike p q (.ok ⟨value, s, events⟩) (.ok ⟨value, t, events⟩)

theorem Alike.bind {p : Permuter σ} {q : Permuter τ} {x : Except IndexFault (Applied α σ)}
    {y : Except IndexFault (Applied α τ)} (alike : Alike p q x y)
    {f : Applied α σ → Except IndexFault (Applied α σ)}
    {g : Applied α τ → Except IndexFault (Applied α τ)}
    (next : ∀ value events s t, p.Agree s q t →
      Alike p q (f ⟨value, s, events⟩) (g ⟨value, t, events⟩)) :
    Alike p q (x >>= f) (y >>= g) := by
  cases alike with
  | error fault => exact .error fault
  | ok value events agree => exact next value events _ _ agree

section Runs

variable (family : α → Option Family) {p : Permuter σ} {s : σ} {q : Permuter τ} {t : τ}

theorem Stage.alike_apply (agree : p.Agree s q t) (stage : Stage) (value : Option (List α)) :
    Alike p q (stage.apply family p value s) (stage.apply family q value t) := by
  cases value with
  | none => exact .ok none [] agree
  | some records =>
      cases stage with
      | pick rule => exact .ok _ _ agree
      | shuffle =>
          obtain ⟨same, after⟩ := agree.draw records.length
          simp only [apply]
          split
          · exact .ok _ _ agree
          · rw [same]
            cases Collection.arrange records (q.draw records.length t).1 with
            | error fault => exact .error fault
            | ok picked => exact .ok _ _ after
      | arrange order =>
          simp only [apply]
          cases Collection.arrange records (order records.length) with
          | error fault => exact .error fault
          | ok picked => exact .ok _ _ agree

theorem Chain.alike_applyFrom (agree : p.Agree s q t) (chain : Chain) (number : Nat)
    (value : Option (List α)) :
    Alike p q (chain.applyFrom family p number value s)
      (chain.applyFrom family q number value t) := by
  induction chain generalizing number value s t with
  | nil => exact .ok value [] agree
  | stage first rest ih =>
      refine (Stage.alike_apply family agree first value).bind fun here events _ _ agree => ?_
      refine (ih agree (number + 1) here).bind fun after later _ _ agree => ?_
      exact .ok after _ agree
  | nest inner rest ihInner ihRest =>
      refine (ihInner agree 0 value).bind fun here events _ _ agree => ?_
      refine (ihRest agree (number + 1) here).bind fun after later _ _ agree => ?_
      exact .ok after _ agree

theorem Chain.alike_apply (agree : p.Agree s q t) (chain : Chain) (value : Option (List α)) :
    Alike p q (chain.apply family p value s) (chain.apply family q value t) :=
  alike_applyFrom family agree chain 0 value

end Runs

/-! ## Two networks, one choice -/

theorem Collection.familyAt_congr {β : Type} {family : α → Option Family}
    {other : β → Option Family} {records : List α} {others : List β}
    (same : records.map family = others.map other) :
    familyAt family records = familyAt other others := by
  funext index
  rw [familyAt_eq, familyAt_eq, same]

/-- The network on whose behalf a socket is read shows in the fault only. -/
theorem Record.readSocket_ok_iff (network other : Network) {text : List Char} {socket : Socket} :
    readSocket network text = .ok socket ↔ readSocket other text = .ok socket := by
  unfold readSocket
  split
  · exact ⟨nofun, nofun⟩
  · split
    · exact Iff.rfl
    · exact ⟨nofun, nofun⟩

/-- A list of texts is read alike over both networks of sockets. -/
theorem Record.readAll_udp_iff {texts : List String} {sockets : List Socket} :
    readAll .udp texts = .ok sockets ↔ readAll .tcp texts = .ok sockets := by
  let reader (network : Network) (text : String) := readSocket network (Text.trim text.toList)
  change texts.mapM (reader .udp) = .ok sockets ↔ texts.mapM (reader .tcp) = .ok sockets
  rw [FirstFault.mapM_eq_ok_iff, FirstFault.mapM_eq_ok_iff]
  induction texts generalizing sockets with
  | nil => exact Iff.rfl
  | cons text rest ih =>
      cases sockets with
      | nil => exact ⟨nofun, nofun⟩
      | cons socket others =>
          simp only [List.map_cons, List.cons.injEq, ih]
          exact and_congr_left fun _ => readSocket_ok_iff .udp .tcp

namespace Run

variable {p : Permuter σ} {s : σ} {q : Permuter τ} {t : τ}

/-- A selection over `udp` is the selection over `tcp`, but for the network's name. -/
theorem toOption_select_udp (agree : p.Agree s q t) (settings : Settings)
    (texts : List String) :
    (select { settings with network := .udp } texts q t).outcome.toOption =
      (select { settings with network := .tcp } texts p s).outcome.toOption.map
        ({ · with network := .udp }) := by
  let tcpSettings := { settings with network := .tcp }
  let udpSettings := { settings with network := .udp }
  cases tcp : Record.readAll .tcp texts with
  | error error =>
      cases udp : Record.readAll .udp texts with
      | error other =>
          rw [select_of_unread udpSettings udp, select_of_unread tcpSettings tcp]
          rfl
      | ok sockets => cases tcp.symm.trans (Record.readAll_udp_iff.1 udp)
  | ok sockets =>
      have udp : Record.readAll .udp texts = .ok sockets := Record.readAll_udp_iff.2 tcp
      have alike := Chain.alike_apply (Record.family? .tcp) agree
        (Chain.ofPolicies settings.policy) (some sockets)
      generalize ranTcp : Chain.apply _ p _ _ s = left, ranUdp : Chain.apply _ q _ _ t = right
        at alike
      cases alike with
      | error fault =>
          rw [select_of_fault udpSettings udp ranUdp, select_of_fault tcpSettings tcp ranTcp]
          rfl
      | ok value events _ =>
          rw [select_of_applied udpSettings udp ranUdp, select_of_applied tcpSettings tcp ranTcp]
          rfl

/-- A run over `udp` is the run over `tcp`, but for the network's name. -/
theorem toOption_execute_udp (agree : p.Agree s q t) (settings : Settings) (input : Input) :
    (execute { settings with network := .udp } input q t).outcome.toOption =
      (execute { settings with network := .tcp } input p s).outcome.toOption.map
        ({ · with network := .udp }) := by
  have source (network : Network) :
      candidates { settings with network := network } input = candidates settings input := rfl
  unfold execute
  rw [source .udp, source .tcp]
  cases candidates settings input with
  | error fault => rfl
  | ok texts =>
      obtain ⟨network, policy, seed, format, addrs, verbose⟩ := settings
      cases seed with
      | none => exact toOption_select_udp agree _ texts
      | some seed => exact toOption_select_udp (.refl Permuter.seeded (.ofSeed seed)) _ texts

end Run

/-- **The families in their order decide.**  Take two collections with the same
families one by one, of one network or of two, and permuters that answer alike.  A
chain then fails on both alike, which fair orders exclude, or leaves nothing of both,
or leaves the records at the same positions of both.  So it makes no difference what
else the records hold, and the texts that a run over `tcp` selects are those that a
run over `udp` selects. -/
theorem Chain.decided_by_families {p : Permuter σ} {s : σ} {q : Permuter τ} {t : τ}
    (agree : p.Agree s q t) (chain : Chain) {network other : Network}
    {records : List network.Record} {others : List other.Record}
    (families : records.map (Record.family? network) = others.map (Record.family? other)) :
    (match chain.apply (Record.family? network) p (some records) s,
        chain.apply (Record.family? other) q (some others) t with
      | .error fault, .error same => fault = same ∧ ¬(p.Fair ∧ chain.Fair)
      | .ok here, .ok there => (here.value = none ∧ there.value = none) ∨
          ∃ order picked chosen, here.value = some picked ∧ there.value = some chosen ∧
            Collection.gather records order = .ok picked ∧
            Collection.gather others order = .ok chosen
      | _, _ => False) ∧
    ∀ (settings : Settings) (input : Input),
      (execute { settings with network := .udp } input q t).outcome.toOption =
        (execute { settings with network := .tcp } input p s).outcome.toOption.map
          ({ · with network := .udp }) := by
  refine ⟨?_, Run.toOption_execute_udp agree⟩
  have length : records.length = others.length := by
    simpa using congrArg List.length families
  have alike := alike_apply (Collection.familyAt (Record.family? network) records) agree chain
    (some (List.range records.length))
  -- The run over the positions is one and the same for both collections.
  generalize ran : Chain.apply _ p _ _ s = run, ranTwin : Chain.apply _ q _ _ t = twin at alike
  rw [Collection.familyAt_congr families, length] at ranTwin
  cases alike with
  | error fault =>
      rw [apply_of_positions_error ran, apply_of_positions_error ranTwin]
      refine ⟨rfl, fun ⟨drawn, fair⟩ => ?_⟩
      obtain ⟨places, ended, -⟩ := apply_subperm _ drawn fair (List.range records.length) s
      cases ran.symm.trans ended
  | ok value events _ =>
      obtain ⟨here, ranHere, outcomeHere⟩ := apply_of_positions ran
      obtain ⟨there, ranThere, outcomeThere⟩ := apply_of_positions ranTwin
      rw [ranHere, ranThere]
      rcases outcomeHere with ⟨nowhere, absent⟩ | ⟨order, picked, places, left, gathered⟩
      · rcases outcomeThere with ⟨-, gone⟩ | ⟨order, chosen, places, -⟩
        · exact .inl ⟨absent, gone⟩
        · cases nowhere.symm.trans places
      · rcases outcomeThere with ⟨nowhere, -⟩ | ⟨same, chosen, again, found, taken⟩
        · cases places.symm.trans nowhere
        · cases places.symm.trans again
          exact .inr ⟨order, picked, chosen, left, found, gathered, taken⟩

/-- Addresses with a zone, of the families of `Collection.sockets`. -/
def Collection.zoned : List Network.ip.Record :=
  [⟨.v4 ⟨10, 0, 0, 1⟩, none⟩, ⟨.v6 ⟨[0xFE80, 0, 0, 0, 0, 0, 0, 1], rfl⟩, some "eth0"⟩,
    ⟨.v4 ⟨10, 0, 0, 2⟩, none⟩]

theorem Chain.decided_by_families_sockets :
    Permuter.still.Agree () Permuter.still () ∧
    Collection.sockets.map (Record.family? .tcp) = Collection.zoned.map (Record.family? .ip) ∧
    (match cappedMirror.apply (Record.family? .tcp) .still (some Collection.sockets) (),
        cappedMirror.apply (Record.family? .ip) .still (some Collection.zoned) () with
      | .error fault, .error same => fault = same ∧ ¬(Permuter.still.Fair ∧ cappedMirror.Fair)
      | .ok here, .ok there => (here.value = none ∧ there.value = none) ∨
          ∃ order picked chosen, here.value = some picked ∧ there.value = some chosen ∧
            Collection.gather Collection.sockets order = .ok picked ∧
            Collection.gather Collection.zoned order = .ok chosen
      | _, _ => False) := by
  have agree := Permuter.Agree.refl Permuter.still ()
  have families : Collection.sockets.map (Record.family? .tcp) =
      Collection.zoned.map (Record.family? .ip) := rfl
  exact ⟨agree, families, (decided_by_families agree cappedMirror families).1⟩

end DialSelect
