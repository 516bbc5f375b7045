import StagedLaunch.Document.Value

/-!
# Tables of a document

In a document that was read no table has a name twice, and whole numbers have 64 bits (`Proper`). The names of a table can come in
another order, and those of the tables in it (`Value.Reordered`); a name can be left out (`Value.Loses`).

What is read from a table is read name by name. Where each name is judged by itself, all of them must fit, and else the problem is
that of the first one that does not (`judged_foldlM`). A part that only one name sets has the value of that name, or none if the
table does not have it (`Sets`, `Slot.sets`).
-/

namespace StagedLaunch.Document

/-! ## Documents that were read -/

/-- A value of a document that was read: no table in it has a name twice, and whole numbers have 64 bits. -/
inductive Value.Proper : Value → Prop where
  /-- A text. -/
  | text (s : String) : Proper (.text s)
  /-- A whole number. -/
  | integer {n : Int} (range : -0x8000000000000000 ≤ n ∧ n < 0x8000000000000000) : Proper (.integer n)
  /-- A floating-point number. -/
  | real (x : Real) : Proper (.real x)
  /-- True or false. -/
  | truth (b : Bool) : Proper (.truth b)
  /-- A date or a time. -/
  | moment : Proper .moment
  /-- An array. -/
  | array {items : List Value} (values : ∀ v ∈ items, Proper v) : Proper (.array items)
  /-- A table. -/
  | table {origin : Origin} {entries : Entries} (names : (entries.map Prod.fst).Nodup) (values : ∀ entry ∈ entries, Proper entry.2) :
      Proper (.table origin entries)
  /-- Tables. -/
  | tables {items : List Entries} (values : ∀ t ∈ items, Proper (.table .header t)) : Proper (.tables items)

/-- A document that was read. -/
def Proper (entries : Entries) : Prop := (Value.table .header entries).Proper

section Proper

variable {origin : Origin} {entries : Entries}

theorem Value.Proper.names (h : (Value.table origin entries).Proper) : (entries.map Prod.fst).Nodup := by
  cases h with
  | table names values => exact names

theorem Value.Proper.values (h : (Value.table origin entries).Proper) : ∀ entry ∈ entries, entry.2.Proper := by
  cases h with
  | table names values => exact values

end Proper

/-! ## Another order, and a name less -/

/-- A value with the names of its tables in another order. -/
inductive Value.Reordered : Value → Value → Prop where
  /-- The same value. -/
  | refl (v : Value) : Reordered v v
  /-- One order after another. -/
  | trans {v v' v'' : Value} (h : Reordered v v') (h' : Reordered v' v'') : Reordered v v''
  /-- The names of a table. -/
  | names {origin : Origin} {entries entries' : Entries} (perm : entries.Perm entries') :
      Reordered (.table origin entries) (.table origin entries')
  /-- The names in a value of a table. -/
  | within {origin : Origin} {before after : Entries} {name : String} {v v' : Value} (h : Reordered v v') :
      Reordered (.table origin (before ++ (name, v) :: after)) (.table origin (before ++ (name, v') :: after))
  /-- The names in a value of an array. -/
  | item {before after : List Value} {v v' : Value} (h : Reordered v v') :
      Reordered (.array (before ++ v :: after)) (.array (before ++ v' :: after))
  /-- The names in one of several tables. -/
  | member {before after : List Entries} {t t' : Entries} (h : Reordered (.table .header t) (.table .header t')) :
      Reordered (.tables (before ++ t :: after)) (.tables (before ++ t' :: after))

/-- A table with a name less, or with a name less in one of the tables in it. -/
inductive Value.Loses : Value → Value → Prop where
  /-- A name of its own. -/
  | name {origin : Origin} {before after : Entries} {entry : String × Value} :
      Loses (.table origin (before ++ entry :: after)) (.table origin (before ++ after))
  /-- A name in one of its values. -/
  | within {origin : Origin} {before after : Entries} {name : String} {v v' : Value} (h : Loses v v') :
      Loses (.table origin (before ++ (name, v) :: after)) (.table origin (before ++ (name, v') :: after))

namespace Value

variable {v v' : Value} {origin : Origin} {entries : Entries} {items : List Value}

theorem Reordered.symm (h : Reordered v v') : Reordered v' v := by
  induction h with
  | refl v => exact .refl v
  | trans _ _ ih ih' => exact .trans ih' ih
  | names perm => exact .names perm.symm
  | within _ ih => exact .within ih
  | item _ ih => exact .item ih
  | member _ ih => exact .member ih

/-- Neither an array nor a table. -/
def isPlain : Value → Bool
  | .array _ | .table _ _ | .tables _ => false
  | _ => true

/-- What is no table has no names. -/
theorem Reordered.eq_of_plain (h : Reordered v v') (hplain : v.isPlain = true) : v' = v := by
  induction h with
  | refl v => rfl
  | trans _ _ ih ih' =>
    have heq := ih hplain
    subst heq
    exact ih' hplain
  | names | within | item | member => cases hplain

theorem Loses.not_plain (h : Loses v v') : v.isPlain = false := by
  cases h with
  | name => rfl
  | within _ => rfl

/-- A table with its names in another order is a table with these names, and each value is one that it had, with its names in
another order. -/
structure Reorders (entries entries' : Entries) : Prop where
  /-- The names are the same. -/
  names : (entries.map Prod.fst).Perm (entries'.map Prod.fst)
  /-- Each value is there. -/
  values : ∀ name v, (name, v) ∈ entries → ∃ v', (name, v') ∈ entries' ∧ Reordered v v'

theorem Reordered.table (h : Reordered (.table origin entries) v') :
    ∃ entries', v' = .table origin entries' ∧ Reorders entries entries' := by
  generalize hv : Value.table origin entries = v at h
  induction h generalizing entries with
  | refl v => exact ⟨entries, hv.symm, .refl _, fun name w hw => ⟨w, hw, .refl w⟩⟩
  | trans _ _ ih ih' =>
    obtain ⟨entries', rfl, h⟩ := ih hv
    obtain ⟨entries'', rfl, h'⟩ := ih' rfl
    refine ⟨entries'', rfl, h.names.trans h'.names, fun name w hw => ?_⟩
    obtain ⟨w', hw', hsame⟩ := h.values name w hw
    obtain ⟨w'', hw'', hsame'⟩ := h'.values name w' hw'
    exact ⟨w'', hw'', hsame.trans hsame'⟩
  | names perm =>
    cases hv
    exact ⟨_, rfl, perm.map _, fun name w hw => ⟨w, perm.mem_iff.1 hw, .refl w⟩⟩
  | @within _ before after name u u' h _ =>
    cases hv
    refine ⟨_, rfl, by simp, fun name' w hw => ?_⟩
    rw [List.mem_append, List.mem_cons] at hw
    rcases hw with hw | heq | hw
    · exact ⟨w, List.mem_append_left _ hw, .refl w⟩
    · cases heq
      exact ⟨u', List.mem_append_cons_self, h⟩
    · exact ⟨w, List.mem_append_right _ (List.mem_cons_of_mem _ hw), .refl w⟩
  | item | member => cases hv

/-- What holds of every entry of a table, whatever the order of the names in its value, holds in another order. -/
theorem Reorders.forall {entries' : Entries} (h : Reorders entries' entries) {P : String × Value → Prop}
    (hP : ∀ name v v', P (name, v) → Reordered v v' → P (name, v')) (hall : ∀ entry ∈ entries, P entry) :
    ∀ entry ∈ entries', P entry := by
  rintro ⟨name, v⟩ hv
  obtain ⟨v', hv', hsame⟩ := h.values name v hv
  exact hP name v' v (hall _ hv') hsame.symm

/-- A table with one name keeps it. -/
theorem Reordered.single {name : String} (h : Reordered (.table origin [(name, v)]) v') :
    ∃ w, v' = .table origin [(name, w)] ∧ Reordered v w := by
  obtain ⟨entries, rfl, hsame⟩ := h.table
  obtain ⟨w, hw, hvw⟩ := hsame.values name v (List.mem_singleton_self _)
  have hlength := hsame.names.length_eq
  match entries with
  | [entry] =>
    cases List.mem_singleton.1 hw
    exact ⟨w, rfl, hvw⟩
  | [] => cases hw
  | first :: second :: rest => simp at hlength

/-- A table without names stays without them. -/
theorem Reordered.table_nil (h : Reordered (.table origin []) v') : v' = .table origin [] := by
  obtain ⟨entries, rfl, hsame⟩ := h.table
  have hnames := hsame.names.nil_eq
  rw [List.map_eq_nil_iff.1 hnames.symm]

theorem Reordered.array_nil (h : Reordered (.array []) v') : v' = .array [] := by
  generalize hv : Value.array [] = v at h
  induction h with
  | refl v => rfl
  | trans _ _ ih ih' =>
    have heq := ih hv
    exact (ih' (hv.trans heq.symm)).trans heq
  | item =>
    rw [array.injEq] at hv
    simp at hv
  | names | within | member => cases hv

/-- The values of an array keep their places. -/
theorem Reordered.array_cons {rest : List Value} (h : Reordered (.array (v :: rest)) v') :
    ∃ w rest', v' = .array (w :: rest') ∧ Reordered v w ∧ Reordered (.array rest) (.array rest') := by
  generalize hv : Value.array (v :: rest) = u at h
  induction h generalizing v rest with
  | refl u => exact ⟨v, rest, hv.symm, .refl v, .refl _⟩
  | trans _ _ ih ih' =>
    obtain ⟨w, rest', rfl, h, hrest⟩ := ih hv
    obtain ⟨w', rest'', rfl, h', hrest'⟩ := ih' rfl
    exact ⟨w', rest'', rfl, h.trans h', hrest.trans hrest'⟩
  | @item before after u u' h _ =>
    cases before with
    | nil =>
      cases hv
      exact ⟨u', after, rfl, h, .refl _⟩
    | cons first before =>
      cases hv
      exact ⟨v, before ++ u' :: after, rfl, .refl v, .item h⟩
  | names | within | member => cases hv

theorem Reordered.tables {items : List Entries} (h : Reordered (.tables items) v') :
    ∃ items', v' = .tables items' ∧ items'.length = items.length := by
  generalize hv : Value.tables items = v at h
  induction h generalizing items with
  | refl v => exact ⟨items, hv.symm, rfl⟩
  | trans _ _ ih ih' =>
    obtain ⟨items', rfl, h⟩ := ih hv
    obtain ⟨items'', rfl, h'⟩ := ih' rfl
    exact ⟨items'', rfl, h'.trans h⟩
  | member h _ =>
    cases hv
    exact ⟨_, rfl, by simp⟩
  | names | within | item => cases hv

/-- A document with a name less can have been read too. -/
theorem Loses.proper (h : Loses v v') (hproper : v.Proper) : v'.Proper := by
  induction h with
  | name =>
    have hnames := hproper.names
    rw [(List.perm_middle.map Prod.fst).nodup_iff, List.map_cons, List.nodup_cons] at hnames
    refine .table hnames.2 fun entry hentry => ?_
    rw [List.mem_append] at hentry
    rcases hentry with hentry | hentry
    · exact hproper.values entry (List.mem_append_left _ hentry)
    · exact hproper.values entry (List.mem_append_right _ (List.mem_cons_of_mem _ hentry))
  | within _ ih =>
    refine .table (by simpa using hproper.names) fun entry hentry => ?_
    rw [List.mem_append, List.mem_cons] at hentry
    rcases hentry with hentry | rfl | hentry
    · exact hproper.values entry (List.mem_append_left _ hentry)
    · exact ih (hproper.values _ List.mem_append_cons_self)
    · exact hproper.values entry (List.mem_append_right _ (List.mem_cons_of_mem _ hentry))

/-- The order of names makes no difference to whether a value can have been read. -/
theorem Reordered.proper (h : Reordered v v') (hproper : v.Proper) : v'.Proper := by
  induction h with
  | refl v => exact hproper
  | trans _ _ ih ih' => exact ih' (ih hproper)
  | names perm =>
    exact .table ((perm.map Prod.fst).nodup_iff.1 hproper.names) fun entry hentry =>
      hproper.values entry (perm.mem_iff.2 hentry)
  | within _ ih =>
    refine .table (by simpa using hproper.names) fun entry hentry => ?_
    rw [List.mem_append, List.mem_cons] at hentry
    rcases hentry with hentry | rfl | hentry
    · exact hproper.values entry (List.mem_append_left _ hentry)
    · exact ih (hproper.values _ List.mem_append_cons_self)
    · exact hproper.values entry (List.mem_append_right _ (List.mem_cons_of_mem _ hentry))
  | item _ ih =>
    cases hproper with
    | array values =>
      refine .array fun w hw => ?_
      rw [List.mem_append, List.mem_cons] at hw
      rcases hw with hw | rfl | hw
      · exact values w (List.mem_append_left _ hw)
      · exact ih (values _ List.mem_append_cons_self)
      · exact values w (List.mem_append_right _ (List.mem_cons_of_mem _ hw))
  | member _ ih =>
    cases hproper with
    | tables values =>
      refine .tables fun t ht => ?_
      rw [List.mem_append, List.mem_cons] at ht
      rcases ht with ht | rfl | ht
      · exact values t (List.mem_append_left _ ht)
      · exact ih (values _ List.mem_append_cons_self)
      · exact values t (List.mem_append_right _ (List.mem_cons_of_mem _ ht))

end Value

/-! ## Judging a table name by name -/

/-- What is read is there just when what it is read from fits, and else the error is its problem. -/
inductive Judged {ε α : Type} (fits : Prop) (problem : ε → Prop) : Except ε α → Prop where
  /-- It is there. -/
  | accepted (a : α) (isFit : fits) (noProblem : ∀ e, ¬problem e) : Judged fits problem (.ok a)
  /-- There is an error. -/
  | refused (e : ε) (isUnfit : ¬fits) (itsProblem : ∀ e', problem e' ↔ e' = e) : Judged fits problem (.error e)

section Judged

variable {ε α β : Type} {outcome : Except ε α} {fits fits' : Prop} {problem problem' : ε → Prop}

theorem Judged.ok_iff (h : Judged fits problem outcome) : (∃ a, outcome = .ok a) ↔ fits := by
  cases h with
  | accepted a isFit noProblem => exact iff_of_true ⟨a, rfl⟩ isFit
  | refused e isUnfit itsProblem => exact iff_of_false (fun ⟨_, hok⟩ => nomatch hok) isUnfit

theorem Judged.error_iff (h : Judged fits problem outcome) (e : ε) : outcome = .error e ↔ problem e := by
  cases h with
  | accepted a isFit noProblem => exact iff_of_false (fun herror => nomatch herror) (noProblem e)
  | refused e' isUnfit itsProblem => rw [itsProblem, Except.error.injEq, eq_comm]

theorem Judged.map (h : Judged fits problem outcome) (f : α → β) : Judged fits problem (outcome.map f) := by
  cases h with
  | accepted a isFit noProblem => exact .accepted (f a) isFit noProblem
  | refused e isUnfit itsProblem => exact .refused e isUnfit itsProblem

theorem Judged.congr (h : Judged fits problem outcome) (hfits : fits ↔ fits') (hproblem : ∀ e, problem e ↔ problem' e) :
    Judged fits' problem' outcome := by
  cases h with
  | accepted a isFit noProblem => exact .accepted a (hfits.1 isFit) fun e he => noProblem e ((hproblem e).2 he)
  | refused e isUnfit itsProblem =>
    exact .refused e (fun hfit => isUnfit (hfits.2 hfit)) fun e' => (hproblem e').symm.trans (itsProblem e')

/-- What fits has no problem, and what does not has no two. -/
structure Exclusive {ε : Type} (fits : Prop) (problem : ε → Prop) : Prop where
  /-- There are no two problems. -/
  unique : ∀ {e e'}, problem e → problem e' → e = e'
  /-- What fits has none. -/
  apart : ∀ {e}, fits → ¬problem e

theorem Exclusive.accepted (h : Exclusive fits problem) (a : α) (hfits : fits) : Judged fits problem (.ok a) :=
  .accepted a hfits fun _ => h.apart hfits

theorem Exclusive.refused {e : ε} (h : Exclusive fits problem) (hproblem : problem e) :
    Judged fits problem (.error e : Except ε α) := by
  refine .refused e (fun hfits => h.apart hfits hproblem) fun e' => ⟨fun hproblem' => h.unique hproblem' hproblem, ?_⟩
  rintro rfl
  exact hproblem

/-- A part that is judged judges the whole. -/
theorem Exclusive.lift (h : Exclusive fits' problem') (hpart : Judged fits problem outcome) (hfits : fits → fits')
    (hproblem : ∀ {e}, problem e → problem' e) : Judged fits' problem' outcome := by
  cases hpart with
  | accepted a isFit noProblem => exact h.accepted a (hfits isFit)
  | refused e isUnfit itsProblem => exact h.refused (hproblem ((itsProblem e).2 rfl))

theorem Judged.exclusive (h : Judged fits problem outcome) : Exclusive fits problem := by
  cases h with
  | accepted a isFit noProblem => exact ⟨fun he => absurd he (noProblem _), fun _ => noProblem _⟩
  | refused e isUnfit itsProblem =>
    exact ⟨fun he he' => ((itsProblem _).1 he).trans ((itsProblem _).1 he').symm, fun hfits => absurd hfits isUnfit⟩

/-- What is read in two steps. -/
theorem Judged.bind {f : α → Except ε β} (h : Judged fits problem outcome) (hf : ∀ a, Judged fits' problem' (f a)) :
    Judged (fits ∧ fits') (fun e => problem e ∨ fits ∧ problem' e) (outcome >>= f) := by
  cases h with
  | accepted a isFit noProblem =>
    exact (hf a).congr (by simp [isFit]) fun e => by simp [isFit, noProblem e]
  | refused e isUnfit itsProblem =>
    exact .refused e (fun hfit => isUnfit hfit.1) fun e' => by simp [isUnfit, itsProblem]

end Judged

/-- The problem of the first entry that does not fit. -/
def FirstProblem {ε : Type} (Fits : String × Value → Prop) (Problem : String × Value → ε → Prop) (entries : Entries) (e : ε) : Prop :=
  ∃ before entry after, entries = before ++ entry :: after ∧ (∀ earlier ∈ before, Fits earlier) ∧ Problem entry e

section Reading

variable {σ ε α : Type} {step : σ → String × Value → Except ε σ} {Fits : String × Value → Prop}
variable {Problem : String × Value → ε → Prop} {entries : Entries} {s s' : σ}

theorem firstProblem_cons {entry : String × Value} {e : ε} :
    FirstProblem Fits Problem (entry :: entries) e ↔ Problem entry e ∨ Fits entry ∧ FirstProblem Fits Problem entries e := by
  constructor
  · rintro ⟨before, unfit, after, heq, hbefore, hproblem⟩
    cases before with
    | nil =>
      cases heq
      exact .inl hproblem
    | cons first before =>
      cases heq
      rw [List.forall_mem_cons] at hbefore
      exact .inr ⟨hbefore.1, before, unfit, after, rfl, hbefore.2, hproblem⟩
  · rintro (hproblem | ⟨hfits, before, unfit, after, rfl, hbefore, hproblem⟩)
    · exact ⟨[], entry, entries, rfl, by simp, hproblem⟩
    · exact ⟨entry :: before, unfit, after, rfl, List.forall_mem_cons.2 ⟨hfits, hbefore⟩, hproblem⟩

/-- A table is judged name by name when what was read before makes no difference to how a name is judged. -/
theorem judged_foldlM (h : ∀ s, ∀ entry ∈ entries, Judged (Fits entry) (Problem entry) (step s entry)) (s : σ) :
    Judged (∀ entry ∈ entries, Fits entry) (FirstProblem Fits Problem entries) (entries.foldlM step s) := by
  induction entries generalizing s with
  | nil =>
    refine .accepted s (by simp) fun e => ?_
    rintro ⟨before, unfit, after, heq, -⟩
    simp at heq
  | cons entry entries ih =>
    have hrest (s : σ) := ih (fun s other hother => h s other (List.mem_cons_of_mem _ hother)) s
    rw [List.foldlM_cons]
    refine ((h s entry (List.mem_cons_self ..)).bind hrest).congr ?_ fun e => firstProblem_cons.symm
    exact List.forall_mem_cons.symm

/-- A part of what is read from a table is what the value of a name shows, or none if the table does not have that name. -/
structure Sets (entries : Entries) (name : String) (Shows : α → Value → Prop) (part : Option α) : Prop where
  /-- It is what the value shows. -/
  given : ∀ v, (name, v) ∈ entries → ∃ a, part = some a ∧ Shows a v
  /-- It is absent if the name is. -/
  absent : name ∉ entries.map Prod.fst → part = none

/-- A part of what is read that only one name sets. -/
structure Slot (step : σ → String × Value → Except ε σ) (name : String) (Shows : α → Value → Prop) (part : σ → Option α) :
    Prop where
  /-- The name sets it to what its value shows. -/
  own : ∀ {s v s'}, step s (name, v) = .ok s' → ∃ a, part s' = some a ∧ Shows a v
  /-- No other name changes it. -/
  others : ∀ {s other v s'}, step s (other, v) = .ok s' → other ≠ name → part s' = part s

variable {name : String} {Shows : α → Value → Prop} {part : σ → Option α}

theorem map_eq_ok {β : Type} {outcome : Except ε α} {f : α → β} {b : β} (h : outcome.map f = .ok b) :
    ∃ a, outcome = .ok a ∧ f a = b := by
  cases outcome with
  | error e => cases h
  | ok a => exact ⟨a, rfl, Except.ok.inj h⟩

/-- A part is set by one name when the value of that name is read into it, and no other name changes it. -/
theorem slot_of_read {read : Value → Except ε α} {set : σ → α → σ}
    (hstep : ∀ s v, step s (name, v) = (read v).map (set s)) (hpart : ∀ s a, part (set s a) = some a)
    (hshows : ∀ a v, read v = .ok a → Shows a v)
    (hothers : ∀ {s other v s'}, step s (other, v) = .ok s' → other ≠ name → part s' = part s) :
    Slot step name Shows part where
  own := by
    intro s v s' h
    rw [hstep] at h
    obtain ⟨a, hread, rfl⟩ := map_eq_ok h
    exact ⟨a, hpart s a, hshows a v hread⟩
  others := hothers

theorem Slot.kept (h : Slot step name Shows part) (hname : name ∉ entries.map Prod.fst)
    (hfold : entries.foldlM step s = .ok s') : part s' = part s := by
  induction entries generalizing s with
  | nil =>
    cases hfold
    rfl
  | cons entry entries ih =>
    obtain ⟨other, v⟩ := entry
    rw [List.map_cons, List.mem_cons, not_or] at hname
    rw [List.foldlM_cons] at hfold
    rcases hstep : step s (other, v) with e | s₁
    · rw [hstep] at hfold
      cases hfold
    · rw [hstep] at hfold
      rw [ih hname.2 hfold, h.others hstep (Ne.symm hname.1)]

theorem Slot.sets (h : Slot step name Shows part) (hnames : (entries.map Prod.fst).Nodup) (hstart : part s = none)
    (hfold : entries.foldlM step s = .ok s') : Sets entries name Shows (part s') := by
  refine ⟨fun v hv => ?_, fun hname => (h.kept hname hfold).trans hstart⟩
  clear hstart
  induction entries generalizing s with
  | nil => cases hv
  | cons entry entries ih =>
    obtain ⟨other, w⟩ := entry
    rw [List.map_cons, List.nodup_cons] at hnames
    rw [List.foldlM_cons] at hfold
    rcases hstep : step s (other, w) with e | s₁
    · rw [hstep] at hfold
      cases hfold
    · rw [hstep] at hfold
      rcases List.mem_cons.1 hv with heq | hv
      · cases heq
        obtain ⟨a, ha, hshows⟩ := h.own hstep
        exact ⟨a, (h.kept hnames.1 hfold).trans ha, hshows⟩
      · exact ih hnames.2 hfold hv

theorem Sets.unique {part part' : Option α} (h : Sets entries name Shows part) (h' : Sets entries name Shows part')
    (hunique : ∀ a a' v, Shows a v → Shows a' v → a = a') : part = part' := by
  by_cases hname : name ∈ entries.map Prod.fst
  · obtain ⟨⟨_, v⟩, hv, rfl⟩ := List.mem_map.1 hname
    obtain ⟨a, rfl, hshows⟩ := h.given v hv
    obtain ⟨a', rfl, hshows'⟩ := h'.given v hv
    rw [hunique a a' v hshows hshows']
  · rw [h.absent hname, h'.absent hname]

/-- The order of the names makes no difference to what they set. -/
theorem Sets.reorders {entries' : Entries} {part : Option α} (h : Sets entries name Shows part)
    (hfrom : Value.Reorders entries' entries) (hshows : ∀ a v v', Shows a v → Value.Reordered v v' → Shows a v') :
    Sets entries' name Shows part := by
  refine ⟨fun v hv => ?_, fun hname => h.absent fun hmem => hname (hfrom.names.mem_iff.2 hmem)⟩
  obtain ⟨v', hv', hsame⟩ := hfrom.values name v hv
  obtain ⟨a, ha, hshow⟩ := h.given v' hv'
  exact ⟨a, ha, hshows a v' v hshow hsame.symm⟩

/-- Without a name that sets a part, the part is another. -/
theorem Sets.lost {before after : Entries} {v : Value} {part : Option α}
    (h : Sets (before ++ (name, v) :: after) name Shows part)
    (hnames : ((before ++ (name, v) :: after).map Prod.fst).Nodup) : ¬Sets (before ++ after) name Shows part := by
  intro h'
  obtain ⟨a, ha, -⟩ := h.given v List.mem_append_cons_self
  rw [(List.perm_middle.map Prod.fst).nodup_iff, List.map_cons, List.nodup_cons] at hnames
  rw [h'.absent hnames.1] at ha
  cases ha

end Reading

end StagedLaunch.Document
