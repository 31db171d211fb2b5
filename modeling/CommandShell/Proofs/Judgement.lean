import CommandShell.Table.Basic
import Mathlib.Data.Set.List

/-!
# What a table makes of a call

The entries of a name are asked in the order of their registration. Each of them accepts the
arguments, is denied, or raises a failure; the first that is not denied ends the row. A row in which
all are denied comes to an error with their reasons, if all of these are texts.

* `judge_cases` — what one entry can do;
* `firstAccepting_cons_of_accepts` and its like — a row of entries by its first one;
* `accepted_of_firstAccepting`, `raised_of_firstAccepting`, `denied_of_firstAccepting` — what ended a
  row, and what is in front of the end;
* `accept_of_resolve`, `noMatch_of_resolve` — **a resolved call, and one that is not**.
-/

namespace CommandShell

variable {H : Type}

/-! ### Decisions -/

namespace Decision

/-- A decision that can be told of: no denial for something else than a text, and no failure without
a text. -/
def HasText : Decision → Prop
  | unfit _ => False
  | mute _ => False
  | _ => True

/-- The text of a denial that is meant as help. -/
def helpText? : Decision → Option String
  | deny reason true => some reason
  | _ => none

end Decision

namespace Reason

theorem texts_map_text (index : Nat) (ss : List String) : texts index (ss.map .text) = .ok ss := by
  induction ss generalizing index with
  | nil => rfl
  | cons s ss ih =>
    rw [List.map_cons, texts, ih]
    rfl

/-- Reasons have texts exactly if they are texts. -/
theorem texts_eq_ok_iff {index : Nat} {reasons : List Reason} {ss : List String} :
    texts index reasons = .ok ss ↔ reasons = ss.map .text := by
  refine ⟨fun h => ?_, fun h => h ▸ texts_map_text index ss⟩
  induction reasons generalizing index ss with
  | nil =>
    cases h
    rfl
  | cons reason reasons ih =>
    cases reason with
    | other kind => cases h
    | text s =>
      rw [texts] at h
      cases hrest : texts (index + 1) reasons with
      | error f =>
        rw [hrest] at h
        cases h
      | ok others =>
        rw [hrest] at h
        cases h
        rw [ih hrest]
        rfl

end Reason

namespace Table

variable {args : List String}

/-! ### One entry -/

/-- The entry does not accept the arguments, and can tell why. -/
def Declines (args : List String) (e : Entry H) : Prop :=
  (e.decider.decide args).HasText ∧ ∀ values, e.decider.decide args ≠ .accept values

/-- **One entry.** It accepts with the values of its decider; it is denied for a text, with help if
and only if its decider denies with help; it is denied for something that is no text; or it raises
what its decider could not tell. -/
theorem judge_cases (e : Entry H) (args : List String) :
    (∃ values, e.decider.decide args = .accept values ∧ judge e args = .accepts values) ∨
      (Declines args e ∧ ∃ denial reason, judge e args = .denies denial ∧
        denial.reason = .text reason ∧ denial.help = (e.decider.decide args).helpText?) ∨
      (∃ kind, e.decider.decide args = .unfit kind ∧
        judge e args = .denies { reason := .other kind }) ∨
      ∃ failure, e.decider.decide args = .mute failure ∧ judge e args = .raises failure := by
  unfold judge Declines
  cases e.decider.decide args with
  | accept values => exact .inl ⟨values, rfl, rfl⟩
  | deny reason help =>
    refine .inr (.inl ⟨⟨trivial, fun values => nofun⟩, ?_⟩)
    cases help with
    | false => exact ⟨_, _, rfl, rfl, rfl⟩
    | true => exact ⟨_, _, rfl, rfl, rfl⟩
  | unfit kind => exact .inr (.inr (.inl ⟨kind, rfl, rfl⟩))
  | other shown => exact .inr (.inl ⟨⟨trivial, fun values => nofun⟩, _, _, rfl, rfl, rfl⟩)
  | failed fault => exact .inr (.inl ⟨⟨trivial, fun values => nofun⟩, _, _, rfl, rfl, rfl⟩)
  | mute failure => exact .inr (.inr (.inr ⟨failure, rfl, rfl⟩))

theorem accept_of_judge {e : Entry H} {values : List Value} (h : judge e args = .accepts values) :
    e.decider.decide args = .accept values := by
  rcases judge_cases e args with ⟨values', haccept, hjudge⟩ | ⟨-, denial, -, hjudge, -⟩ |
    ⟨kind, -, hjudge⟩ | ⟨failure, -, hjudge⟩ <;> rw [hjudge] at h <;> cases h
  exact haccept

theorem mute_of_judge {e : Entry H} {failure : Failure} (h : judge e args = .raises failure) :
    e.decider.decide args = .mute failure := by
  rcases judge_cases e args with ⟨values, -, hjudge⟩ | ⟨-, denial, -, hjudge, -⟩ |
    ⟨kind, -, hjudge⟩ | ⟨failure', hmute, hjudge⟩ <;> rw [hjudge] at h <;> cases h
  exact hmute

/-- A denial gives the help of the decision, and a text as its reason if the decision has a
text. -/
theorem help_of_judge {e : Entry H} {denial : Denial} (h : judge e args = .denies denial) :
    denial.help = (e.decider.decide args).helpText? ∧
      ((e.decider.decide args).HasText → ∃ reason, denial.reason = .text reason) := by
  rcases judge_cases e args with ⟨values, -, hjudge⟩ | ⟨-, denial', reason, hjudge, hreason, hhelp⟩ |
    ⟨kind, hunfit, hjudge⟩ | ⟨failure, -, hjudge⟩ <;> rw [hjudge] at h <;> cases h
  · exact ⟨hhelp, fun _ => ⟨reason, hreason⟩⟩
  · rw [hunfit]
    exact ⟨rfl, fun htext => htext.elim⟩

/-! ### A row of entries -/

theorem firstAccepting_cons_of_accepts {e : Entry H} {values : List Value}
    (h : judge e args = .accepts values) (entries : List (Entry H)) :
    firstAccepting args (e :: entries) = ([], some (.ok (e, values))) := by
  rw [firstAccepting, h]

theorem firstAccepting_cons_of_raises {e : Entry H} {failure : Failure}
    (h : judge e args = .raises failure) (entries : List (Entry H)) :
    firstAccepting args (e :: entries) = ([], some (.error failure)) := by
  rw [firstAccepting, h]

theorem firstAccepting_cons_of_denies {e : Entry H} {denial : Denial}
    (h : judge e args = .denies denial) (entries : List (Entry H)) :
    firstAccepting args (e :: entries) =
      ((e, denial) :: (firstAccepting args entries).1, (firstAccepting args entries).2) := by
  rw [firstAccepting, h]

/-- The entry that a row gives is one of it, and grants the values. -/
theorem accepted_of_firstAccepting {entries : List (Entry H)} {e : Entry H} {values : List Value}
    (h : (firstAccepting args entries).2 = some (.ok (e, values))) :
    e ∈ entries ∧ e.decider.decide args = .accept values := by
  induction entries with
  | nil => cases h
  | cons first entries ih =>
    cases hjudge : judge first args with
    | accepts values' =>
      rw [firstAccepting_cons_of_accepts hjudge] at h
      cases h
      exact ⟨List.mem_cons_self, accept_of_judge hjudge⟩
    | raises failure =>
      rw [firstAccepting_cons_of_raises hjudge] at h
      cases h
    | denies denial =>
      rw [firstAccepting_cons_of_denies hjudge] at h
      exact (ih h).imp_left (List.mem_cons_of_mem first)

/-- The failure that a row raises is one that an entry of it could not tell. -/
theorem raised_of_firstAccepting {entries : List (Entry H)} {failure : Failure}
    (h : (firstAccepting args entries).2 = some (.error failure)) :
    ∃ e ∈ entries, e.decider.decide args = .mute failure := by
  induction entries with
  | nil => cases h
  | cons first entries ih =>
    cases hjudge : judge first args with
    | accepts values =>
      rw [firstAccepting_cons_of_accepts hjudge] at h
      cases h
    | raises failure' =>
      rw [firstAccepting_cons_of_raises hjudge] at h
      cases h
      exact ⟨first, List.mem_cons_self, mute_of_judge hjudge⟩
    | denies denial =>
      rw [firstAccepting_cons_of_denies hjudge] at h
      obtain ⟨e, he, hmute⟩ := ih h
      exact ⟨e, List.mem_cons_of_mem first he, hmute⟩

/-- The denials of a row are those of its entries. -/
theorem denied_of_firstAccepting {entries : List (Entry H)} :
    ∀ denied ∈ (firstAccepting args entries).1,
      denied.1 ∈ entries ∧ judge denied.1 args = .denies denied.2 := by
  induction entries with
  | nil => exact List.forall_mem_nil _
  | cons first entries ih =>
    cases hjudge : judge first args with
    | accepts values =>
      rw [firstAccepting_cons_of_accepts hjudge]
      exact List.forall_mem_nil _
    | raises failure =>
      rw [firstAccepting_cons_of_raises hjudge]
      exact List.forall_mem_nil _
    | denies denial =>
      rw [firstAccepting_cons_of_denies hjudge]
      refine List.forall_mem_cons.2 ⟨⟨List.mem_cons_self, hjudge⟩, fun denied hdenied => ?_⟩
      exact (ih denied hdenied).imp_left (List.mem_cons_of_mem first)

/-! ### Calls -/

/-- The error of a call whose denials have texts as their reasons. -/
theorem unmatched_eq_noMatch_iff {name : String} {denials : List Denial} {error : NoMatch} :
    unmatched name args denials = .noMatch error ↔
      ∃ reasons, denials.map (·.reason) = reasons.map .text ∧
        error = { command := name, summary := summarize args, reasons,
                  help := denials.filterMap (·.help) } := by
  unfold unmatched
  cases htexts : Reason.texts 0 (denials.map (·.reason)) with
  | error f =>
    refine ⟨nofun, fun ⟨reasons, hreasons, _⟩ => ?_⟩
    rw [Reason.texts_eq_ok_iff.2 hreasons] at htexts
    cases htexts
  | ok reasons =>
    refine ⟨fun h => ⟨reasons, Reason.texts_eq_ok_iff.1 htexts, (Unresolved.noMatch.inj h).symm⟩, ?_⟩
    rintro ⟨reasons', hreasons', rfl⟩
    rw [Reason.texts_eq_ok_iff.2 hreasons'] at htexts
    rw [Except.ok.inj htexts]

/-- **A resolved call.** Its entry is one of the table, has the name of the call and grants the
values. -/
theorem accept_of_resolve {table : Table H} {name : String} {e : Entry H} {values : List Value}
    (h : (table.resolve name args).1 = .ok (e, values)) :
    e ∈ table.entries ∧ e.name = name ∧ e.decider.decide args = .accept values := by
  simp only [resolve] at h
  split at h
  · rename_i accepted hfound
    cases h
    obtain ⟨hmem, haccept⟩ := accepted_of_firstAccepting hfound
    obtain ⟨hentry, hname⟩ := List.mem_filter.1 hmem
    exact ⟨hentry, beq_iff_eq.1 hname, haccept⟩
  · cases h
  · cases h

/-- **A call that is not resolved.** Where every decider of its name has a text for what it decides,
there is an error, and its help is that of deciders that deny with help. -/
theorem noMatch_of_resolve {table : Table H} {name : String} {reason : Unresolved}
    (htext : ∀ e ∈ table.entriesOf name, (e.decider.decide args).HasText)
    (h : (table.resolve name args).1 = .error reason) :
    ∃ error, reason = .noMatch error ∧ ∀ help ∈ error.help,
      ∃ e ∈ table.entriesOf name, (e.decider.decide args).helpText? = some help := by
  simp only [resolve] at h
  split at h
  · cases h
  · rename_i failure hfound
    obtain ⟨e, he, hmute⟩ := raised_of_firstAccepting hfound
    have hnone := htext e he
    rw [hmute] at hnone
    exact hnone.elim
  · cases h
    have hdenied := @denied_of_firstAccepting H args (table.entriesOf name)
    generalize (firstAccepting args (table.entriesOf name)).1 = denied at hdenied
    obtain ⟨reasons, hreasons⟩ : (denied.map (·.2)).map (·.reason) ∈
        Set.range (List.map Reason.text) := by
      rw [Set.range_list_map]
      intro reason hreason
      obtain ⟨denial, hmem, rfl⟩ := List.mem_map.1 hreason
      obtain ⟨⟨e, _⟩, hpair, rfl⟩ := List.mem_map.1 hmem
      obtain ⟨he, hjudge⟩ := hdenied _ hpair
      obtain ⟨text, hreason⟩ := (help_of_judge hjudge).2 (htext e he)
      exact ⟨text, hreason.symm⟩
    refine ⟨_, unmatched_eq_noMatch_iff.2 ⟨reasons, hreasons.symm, rfl⟩, fun help hhelp => ?_⟩
    obtain ⟨denial, hmem, hsome⟩ := List.mem_filterMap.1 hhelp
    obtain ⟨⟨e, _⟩, hpair, rfl⟩ := List.mem_map.1 hmem
    obtain ⟨he, hjudge⟩ := hdenied _ hpair
    exact ⟨e, he, (help_of_judge hjudge).1.symm.trans hsome⟩

end Table

end CommandShell
