import LinkDigest.Pattern.Match

/-!
# What patterns match

What a pattern matches is said by its parts, without a program and without an order of
preference. The program of a pattern has a way from its beginning to its end just between two
places the pattern matches.
-/

namespace LinkDigest.Pattern

open Matcher (Place holds)

/-- One relation so many times in turn. -/
def Times (R : Place → Place → Prop) : Nat → Place → Place → Prop
  | 0 => fun start stop => stop = start
  | count + 1 => fun start stop => ∃ middle, R start middle ∧ Times R count middle stop

/-- Whether a pattern matches what lies between two places. -/
def Spans : Pattern → Place → Place → Prop
  | .empty => fun start stop => stop = start
  | .set chars => fun start stop =>
    ∃ c rest, start.rest = c :: rest ∧ chars.contains c ∧ stop = start.next
  | .assertion condition => fun start stop => holds condition start ∧ stop = start
  | .group _ inner => inner.Spans
  | .sequence a b => fun start stop => ∃ middle, a.Spans start middle ∧ b.Spans middle stop
  | .choice a b => fun start stop => a.Spans start stop ∨ b.Spans start stop
  | .repetition inner least most _ => fun start stop =>
    ∃ count, least ≤ count ∧ (∀ bound ∈ most, count ≤ max least bound) ∧
      Times inner.Spans count start stop

variable {R : Place → Place → Prop}

theorem times_add {m n : Nat} {start stop : Place} :
    Times R (m + n) start stop ↔ ∃ middle, Times R m start middle ∧ Times R n middle stop := by
  induction m generalizing start with
  | zero => simp [Times]
  | succ m ih =>
    rw [Nat.succ_add]
    constructor
    · rintro ⟨next, hnext, hrest⟩
      obtain ⟨middle, hm, hn⟩ := ih.mp hrest
      exact ⟨middle, ⟨next, hnext, hm⟩, hn⟩
    · rintro ⟨middle, ⟨next, hnext, hm⟩, hn⟩
      exact ⟨next, hnext, ih.mpr ⟨middle, hm, hn⟩⟩

theorem times_one {start stop : Place} : Times R 1 start stop ↔ R start stop := by
  constructor
  · rintro ⟨middle, hmiddle, rfl⟩
    exact hmiddle
  · intro h
    exact ⟨stop, h, rfl⟩

/-! ## Ways through programs -/

namespace Program

/-- Whether so many nodes in turn, from one on and beginning at a place, lead to the end. -/
def Leads (program : Program) : Nat → Nat → Place → Prop
  | 0, _, _ => False
  | count + 1, node, place =>
    match program.nodes[node]? with
    | none => False
    | some .accept => True
    | some (.consume chars next) =>
      ∃ c rest, place.rest = c :: rest ∧ chars.contains c ∧ program.Leads count next place.next
    | some (.check condition next) => holds condition place ∧ program.Leads count next place
    | some (.fork first second) =>
      program.Leads count first place ∨ program.Leads count second place
    | some (.keep _ next) => program.Leads count next place

/-- Whether a way leads from a node, beginning at a place, to the end. -/
def Accepts (program : Program) (node : Nat) (place : Place) : Prop :=
  ∃ count, program.Leads count node place

variable {program : Program} {count node : Nat} {place : Place}

theorem Leads.succ (h : program.Leads count node place) : program.Leads (count + 1) node place := by
  induction count generalizing node place with
  | zero => exact h.elim
  | succ count ih =>
    unfold Leads at h ⊢
    split at h
    · exact h.elim
    · trivial
    · obtain ⟨c, rest, hrest, hc, hnext⟩ := h
      exact ⟨c, rest, hrest, hc, ih hnext⟩
    · exact ⟨h.1, ih h.2⟩
    · exact h.imp ih ih
    · exact ih h

theorem leads_fork {a b : Nat} (hnode : program.nodes[node]? = some (.fork a b)) :
    program.Leads (count + 1) node place ↔
      program.Leads count a place ∨ program.Leads count b place := by
  rw [Leads, hnode]

theorem leads_forkNode {greedy : Bool} {body past : Nat}
    (hnode : program.nodes[node]? = some (forkNode greedy body past)) :
    program.Leads (count + 1) node place ↔
      program.Leads count body place ∨ program.Leads count past place := by
  cases greedy with
  | true => exact leads_fork hnode
  | false => exact (leads_fork hnode).trans or_comm

/-- A program that is as it was written, from some number on. -/
def Has (program : Program) (nodes : Array Node) (first : Nat) : Prop :=
  ∀ i, first ≤ i → i < nodes.size → program.nodes[i]? = nodes[i]?

/-- Nodes more than there were, and none of them changed. -/
structure Extends (before after : Array Node) : Prop where
  size_le : before.size ≤ after.size
  node_eq : ∀ i < before.size, after[i]? = before[i]?

theorem Extends.refl (nodes : Array Node) : Extends nodes nodes := ⟨Nat.le_refl _, fun _ _ => rfl⟩

theorem Extends.trans {a b c : Array Node} (h : Extends a b) (h' : Extends b c) : Extends a c where
  size_le := Nat.le_trans h.size_le h'.size_le
  node_eq i hi := (h'.node_eq i (Nat.lt_of_lt_of_le hi h.size_le)).trans (h.node_eq i hi)

theorem extends_push (nodes : Array Node) (node : Node) : Extends nodes (nodes.push node) where
  size_le := by simp
  node_eq i hi := by rw [Array.getElem?_push, if_neg (Nat.ne_of_lt hi)]

theorem Has.of_extends {nodes later : Array Node} {first : Nat} (h : program.Has later first)
    (hextends : Extends nodes later) : program.Has nodes first := by
  intro i hfirst hi
  rw [h i hfirst (Nat.lt_of_lt_of_le hi hextends.size_le), hextends.node_eq i hi]

theorem Has.mono {nodes : Array Node} {first later : Nat} (h : program.Has nodes first)
    (hle : first ≤ later) : program.Has nodes later :=
  fun i hi => h i (Nat.le_trans hle hi)

/-- From one node every way to the end goes between two related places and on from another
one, and every way from there can be begun so. -/
structure Joins (program : Program) (entry next : Nat) (R : Place → Place → Prop) : Prop where
  of_leads : ∀ {count start}, program.Leads count entry start →
    ∃ stop, R start stop ∧ program.Leads count next stop
  accepts : ∀ {start stop}, R start stop → program.Accepts next stop → program.Accepts entry start

theorem Joins.trans {a b c : Nat} {S : Place → Place → Prop} (h : program.Joins a b R)
    (h' : program.Joins b c S) :
    program.Joins a c fun start stop => ∃ middle, R start middle ∧ S middle stop where
  of_leads hleads := by
    obtain ⟨middle, hmiddle, hleads⟩ := h.of_leads hleads
    obtain ⟨stop, hstop, hleads⟩ := h'.of_leads hleads
    exact ⟨stop, ⟨middle, hmiddle, hstop⟩, hleads⟩
  accepts := by
    rintro start stop ⟨middle, hmiddle, hstop⟩ haccepts
    exact h.accepts hmiddle (h'.accepts hstop haccepts)

theorem Joins.congr {a b : Nat} {S : Place → Place → Prop} (h : program.Joins a b R)
    (hiff : ∀ start stop, R start stop ↔ S start stop) : program.Joins a b S where
  of_leads hleads := by
    obtain ⟨stop, hstop, hleads⟩ := h.of_leads hleads
    exact ⟨stop, (hiff _ _).mp hstop, hleads⟩
  accepts hstop := h.accepts ((hiff _ _).mpr hstop)

theorem joins_self (node : Nat) : program.Joins node node fun start stop => stop = start where
  of_leads hleads := ⟨_, rfl, hleads⟩
  accepts := by
    rintro start stop rfl haccepts
    exact haccepts

/-- A node joins the one it leads to. -/
theorem joins_of_node {entry next : Nat}
    (hnode : ∀ count start, program.Leads (count + 1) entry start ↔
      ∃ stop, R start stop ∧ program.Leads count next stop) : program.Joins entry next R where
  of_leads {count start} hleads := by
    cases count with
    | zero => exact hleads.elim
    | succ count =>
      obtain ⟨stop, hstop, hleads⟩ := (hnode count start).mp hleads
      exact ⟨stop, hstop, hleads.succ⟩
  accepts {start stop} hstop := by
    rintro ⟨count, hleads⟩
    exact ⟨count + 1, (hnode count start).mpr ⟨stop, hstop, hleads⟩⟩

/-! ## Writing -/

/-- A writer whose nodes join where they begin to what follows. -/
def Writes (body : Nat → Writer Nat) (R : Place → Place → Prop) : Prop :=
  ∀ next nodes, Extends nodes ((body next).run nodes).2 ∧
    ∀ program : Program, program.Has ((body next).run nodes).2 nodes.size →
      program.Joins ((body next).run nodes).1 next R

variable {body other : Nat → Writer Nat} {S : Place → Place → Prop}

theorem Writes.congr (h : Writes body R) (hiff : ∀ start stop, R start stop ↔ S start stop) :
    Writes body S :=
  fun next nodes =>
    ⟨(h next nodes).1, fun program hhas => ((h next nodes).2 program hhas).congr hiff⟩

theorem writes_pure : Writes pure fun start stop => stop = start :=
  fun next nodes => ⟨.refl nodes, fun _ _ => joins_self next⟩

theorem writes_emit {node : Nat → Node}
    (hnode : ∀ (program : Program) entry next, program.nodes[entry]? = some (node next) →
      ∀ count start, program.Leads (count + 1) entry start ↔
        ∃ stop, R start stop ∧ program.Leads count next stop) :
    Writes (fun next => emit (node next)) R := by
  intro next nodes
  refine ⟨extends_push nodes (node next), fun program hhas => joins_of_node ?_⟩
  refine hnode program nodes.size next ?_
  have hlast := hhas nodes.size (Nat.le_refl _) (by simp [emit, StateT.run])
  simpa [emit, StateT.run] using hlast

/-- What is written behind another thing is written before it. -/
theorem Writes.behind (h : Writes body R) (h' : Writes other S) :
    Writes (fun next => do body (← other next))
      fun start stop => ∃ middle, R start middle ∧ S middle stop := by
  intro next nodes
  obtain ⟨hother, hrest⟩ := h' next nodes
  obtain ⟨hwrite, hfirst⟩ := h ((other next).run nodes).1 ((other next).run nodes).2
  refine ⟨hother.trans hwrite, fun program hhas => ?_⟩
  exact (hfirst program (hhas.mono hother.size_le)).trans (hrest program (hhas.of_extends hwrite))

theorem Joins.fork {entry a b next : Nat} {greedy : Bool} (ha : program.Joins a next R)
    (hb : program.Joins b next S) (hnode : program.nodes[entry]? = some (forkNode greedy a b)) :
    program.Joins entry next fun start stop => R start stop ∨ S start stop where
  of_leads {count start} hleads := by
    cases count with
    | zero => exact hleads.elim
    | succ count =>
      rcases (leads_forkNode hnode).mp hleads with hleads | hleads
      · obtain ⟨stop, hstop, hleads⟩ := ha.of_leads hleads
        exact ⟨stop, .inl hstop, hleads.succ⟩
      · obtain ⟨stop, hstop, hleads⟩ := hb.of_leads hleads
        exact ⟨stop, .inr hstop, hleads.succ⟩
  accepts {start stop} hstop haccepts := by
    rcases hstop with hstop | hstop
    · obtain ⟨count, hleads⟩ := ha.accepts hstop haccepts
      exact ⟨count + 1, (leads_forkNode hnode).mpr (.inl hleads)⟩
    · obtain ⟨count, hleads⟩ := hb.accepts hstop haccepts
      exact ⟨count + 1, (leads_forkNode hnode).mpr (.inr hleads)⟩

/-- The node that was written last. -/
theorem Has.getElem?_push {nodes : Array Node} {first : Nat} {node : Node}
    (h : program.Has (nodes.push node) first) (hle : first ≤ nodes.size) :
    program.nodes[nodes.size]? = some node := by
  rw [h nodes.size hle (by simp), Array.getElem?_push_size]

theorem Writes.fork (h : Writes body R) (h' : Writes other S) :
    Writes (fun next => do
        let first ← body next
        let second ← other next
        emit (.fork first second))
      fun start stop => R start stop ∨ S start stop := by
  intro next nodes
  obtain ⟨hwrite, hfirst⟩ := h next nodes
  obtain ⟨hother, hsecond⟩ := h' next ((body next).run nodes).2
  have hemit := extends_push ((other next).run ((body next).run nodes).2).2
    (.fork ((body next).run nodes).1 ((other next).run ((body next).run nodes).2).1)
  refine ⟨(hwrite.trans hother).trans hemit, fun program hhas => ?_⟩
  have ha := hfirst program (hhas.of_extends (hother.trans hemit))
  have hb := hsecond program ((hhas.of_extends hemit).mono hwrite.size_le)
  have hnode := hhas.getElem?_push (hwrite.trans hother).size_le
  exact ha.fork hb (show _ = some (forkNode true _ _) from hnode)

/-! ### Repetitions -/

theorem writes_times (h : Writes body R) (count : Nat) :
    Writes (writeTimes body count) (Times R count) := by
  induction count with
  | zero => exact writes_pure
  | succ count ih =>
    refine (ih.behind h).congr fun start stop => ?_
    rw [times_add]
    simp only [times_one]

/-- Once more at most, either because it comes now or because nothing comes. -/
theorem or_times_iff {most : Nat} {start stop : Place} :
    ((∃ middle, R start middle ∧ ∃ count ≤ most, Times R count middle stop) ∨ stop = start) ↔
      ∃ count ≤ most + 1, Times R count start stop := by
  constructor
  · rintro (⟨middle, hmiddle, count, hcount, htimes⟩ | rfl)
    · exact ⟨count + 1, Nat.succ_le_succ hcount, middle, hmiddle, htimes⟩
    · exact ⟨0, Nat.zero_le _, rfl⟩
  · rintro ⟨count, hcount, htimes⟩
    cases count with
    | zero => exact .inr htimes
    | succ count =>
      obtain ⟨middle, hmiddle, htimes⟩ := htimes
      exact .inl ⟨middle, hmiddle, count, Nat.le_of_succ_le_succ hcount, htimes⟩

/-- The decisions that are written one before the other all lead past the rest. -/
theorem joins_writeUpTo (h : Writes body R) (greedy : Bool) (past count next : Nat)
    (nodes : Array Node) :
    Extends nodes ((writeUpTo body greedy past count next).run nodes).2 ∧
      ∀ program : Program,
        program.Has ((writeUpTo body greedy past count next).run nodes).2 nodes.size →
        ∀ most, (program.Joins next past fun start stop => ∃ k ≤ most, Times R k start stop) →
          program.Joins ((writeUpTo body greedy past count next).run nodes).1 past
            fun start stop => ∃ k ≤ most + count, Times R k start stop := by
  induction count generalizing next nodes with
  | zero => exact ⟨.refl nodes, fun _ _ _ hjoins => hjoins⟩
  | succ count ih =>
    obtain ⟨hwrite, hbody⟩ := h next nodes
    have hemit := extends_push ((body next).run nodes).2
      (forkNode greedy ((body next).run nodes).1 past)
    obtain ⟨hmore, hrest⟩ := ih ((body next).run nodes).2.size
      (((body next).run nodes).2.push (forkNode greedy ((body next).run nodes).1 past))
    refine ⟨(hwrite.trans hemit).trans hmore, fun program hhas most hjoins => ?_⟩
    have hbefore := hhas.of_extends hmore
    have hentry := (hbody program (hbefore.of_extends hemit)).trans hjoins
    have hdecision := (hentry.fork (joins_self past)
      (hbefore.getElem?_push hwrite.size_le)).congr fun _ _ => or_times_iff
    have hall := hrest program (hhas.mono (hwrite.trans hemit).size_le) (most + 1) hdecision
    rw [Nat.add_right_comm] at hall
    exact hall

theorem writes_upTo (h : Writes body R) (greedy : Bool) (count : Nat) :
    Writes (fun next => writeUpTo body greedy next count next)
      fun start stop => ∃ k ≤ count, Times R k start stop := by
  intro next nodes
  obtain ⟨hextends, hjoins⟩ := joins_writeUpTo h greedy next count next nodes
  refine ⟨hextends, fun program hhas => ?_⟩
  have hnone : program.Joins next next fun start stop => ∃ k ≤ 0, Times R k start stop :=
    (joins_self next).congr fun start stop =>
      ⟨fun heq => ⟨0, Nat.le_refl 0, heq⟩, fun ⟨k, hk, htimes⟩ => by
        cases Nat.le_zero.mp hk
        exact htimes⟩
  have hall := hjoins program hhas 0 hnone
  rw [Nat.zero_add] at hall
  exact hall

/-- A decision whose one way leads back to it is taken any number of times. -/
theorem joins_decision {decision entry next : Nat} {greedy : Bool}
    (hentry : program.Joins entry decision R)
    (hnode : program.nodes[decision]? = some (forkNode greedy entry next)) :
    program.Joins decision next fun start stop => ∃ count, Times R count start stop where
  of_leads {count start} hleads := by
    induction count generalizing start with
    | zero => exact hleads.elim
    | succ count ih =>
      rcases (leads_forkNode hnode).mp hleads with hleads | hleads
      · obtain ⟨middle, hmiddle, hleads⟩ := hentry.of_leads hleads
        obtain ⟨stop, ⟨rounds, htimes⟩, hleads⟩ := ih hleads
        exact ⟨stop, ⟨rounds + 1, middle, hmiddle, htimes⟩, hleads.succ⟩
      · exact ⟨start, ⟨0, rfl⟩, hleads.succ⟩
  accepts := by
    rintro start stop ⟨rounds, htimes⟩ haccepts
    induction rounds generalizing start with
    | zero =>
      cases htimes
      obtain ⟨count, hleads⟩ := haccepts
      exact ⟨count + 1, (leads_forkNode hnode).mpr (.inr hleads)⟩
    | succ rounds ih =>
      obtain ⟨middle, hmiddle, htimes⟩ := htimes
      obtain ⟨count, hleads⟩ := hentry.accepts hmiddle (ih htimes)
      exact ⟨count + 1, (leads_forkNode hnode).mpr (.inl hleads)⟩

/-- What a loop is once it is written. -/
theorem joins_writeLoop (h : Writes body R) (greedy : Bool) (next : Nat) (nodes : Array Node) :
    Extends nodes ((writeLoop body greedy next).run nodes).2 ∧
      ∀ program : Program, program.Has ((writeLoop body greedy next).run nodes).2 nodes.size →
        program.Joins ((writeLoop body greedy next).run nodes).1.1
          ((writeLoop body greedy next).run nodes).1.2 R ∧
        program.Joins ((writeLoop body greedy next).run nodes).1.2 next
          fun start stop => ∃ count, Times R count start stop := by
  obtain ⟨hwrite, hbody⟩ := h nodes.size (nodes.push .accept)
  have hrun : (writeLoop body greedy next).run nodes =
      ((((body nodes.size).run (nodes.push .accept)).1, nodes.size),
        ((body nodes.size).run (nodes.push .accept)).2.setIfInBounds nodes.size
          (forkNode greedy ((body nodes.size).run (nodes.push .accept)).1 next)) := rfl
  rw [hrun]
  generalize (body nodes.size).run (nodes.push .accept) = written at hwrite hbody
  obtain ⟨entry, later⟩ := written
  have hsize : nodes.size + 1 ≤ later.size := by simpa using hwrite.size_le
  refine ⟨⟨?_, fun i hi => ?_⟩, fun program hhas => ?_⟩
  · rw [Array.size_setIfInBounds]
    exact Nat.le_of_succ_le hsize
  · rw [Array.getElem?_setIfInBounds_ne (Nat.ne_of_gt hi),
      hwrite.node_eq i (by simpa using Nat.lt_succ_of_lt hi)]
    exact (extends_push nodes .accept).node_eq i hi
  · have hjoins := hbody program fun i hfirst hi => by
      rw [Array.size_push] at hfirst
      rw [hhas i (Nat.le_of_succ_le hfirst) (by simpa using hi),
        Array.getElem?_setIfInBounds_ne (Nat.ne_of_lt hfirst)]
    have hnode : program.nodes[nodes.size]? = some (forkNode greedy entry next) := by
      rw [hhas nodes.size (Nat.le_refl _) (by rw [Array.size_setIfInBounds]; exact hsize),
        Array.getElem?_setIfInBounds_self_of_lt hsize]
    exact ⟨hjoins, joins_decision hjoins hnode⟩

/-- However a loop is entered, its body is matched so many times or more often. -/
theorem writes_unbounded {inner : Pattern} (h : Writes (write inner) R) (least : Nat)
    (greedy : Bool) :
    Writes (write (.repetition inner least none greedy))
      fun start stop => ∃ count, least ≤ count ∧ Times R count start stop := by
  intro next nodes
  obtain ⟨hloop, hways⟩ := joins_writeLoop h greedy next nodes
  have hrun : (write (.repetition inner least none greedy) next).run nodes =
      ((if least = 0 then
          if inner.isNullable then
            emit (forkNode greedy ((writeLoop (write inner) greedy next).run nodes).1.1 next)
          else pure ((writeLoop (write inner) greedy next).run nodes).1.2
        else writeTimes (write inner) (least - 1)
          ((writeLoop (write inner) greedy next).run nodes).1.1 : Writer Nat)).run
        ((writeLoop (write inner) greedy next).run nodes).2 := rfl
  rw [hrun]
  generalize (writeLoop (write inner) greedy next).run nodes = written at hloop hways
  obtain ⟨⟨entry, decision⟩, later⟩ := written
  have honce : ∀ {start stop}, (∃ middle, R start middle ∧ ∃ count, Times R count middle stop) ↔
      ∃ count, Times R (count + 1) start stop :=
    ⟨fun ⟨middle, hmiddle, count, htimes⟩ => ⟨count, middle, hmiddle, htimes⟩,
      fun ⟨count, middle, hmiddle, htimes⟩ => ⟨middle, hmiddle, count, htimes⟩⟩
  by_cases hleast : least = 0
  · subst hleast
    rw [if_pos rfl]
    by_cases hnullable : inner.isNullable
    · rw [if_pos hnullable]
      have hemit := extends_push later (forkNode greedy entry next)
      refine ⟨hloop.trans hemit, fun program hhas => ?_⟩
      obtain ⟨hentry, hdecision⟩ := hways program (hhas.of_extends hemit)
      have hjoins := (hentry.trans hdecision).fork (joins_self next)
        (hhas.getElem?_push hloop.size_le)
      refine hjoins.congr fun start stop => ?_
      rw [honce]
      constructor
      · rintro (⟨count, htimes⟩ | rfl)
        · exact ⟨count + 1, Nat.zero_le _, htimes⟩
        · exact ⟨0, Nat.le_refl 0, rfl⟩
      · rintro ⟨count, -, htimes⟩
        cases count with
        | zero => exact .inr htimes
        | succ count => exact .inl ⟨count, htimes⟩
    · rw [if_neg hnullable]
      refine ⟨hloop, fun program hhas => (hways program hhas).2.congr fun start stop => ?_⟩
      simp only [Nat.zero_le, true_and]
  · obtain ⟨before, rfl⟩ := Nat.exists_eq_succ_of_ne_zero hleast
    rw [if_neg hleast]
    obtain ⟨htimes, hfirst⟩ := writes_times h before entry later
    refine ⟨hloop.trans htimes, fun program hhas => ?_⟩
    obtain ⟨hentry, hdecision⟩ := hways program (hhas.of_extends htimes)
    have hjoins := (hfirst program (hhas.mono hloop.size_le)).trans
      ((hentry.trans hdecision).congr fun _ _ => honce)
    refine hjoins.congr fun start stop => ?_
    constructor
    · rintro ⟨middle, hbefore, count, hafter⟩
      exact ⟨before + (count + 1), Nat.add_le_add_left (Nat.le_add_left 1 count) before,
        times_add.mpr ⟨middle, hbefore, hafter⟩⟩
    · rintro ⟨count, hle, htimes⟩
      obtain ⟨more, rfl⟩ := Nat.exists_eq_add_of_le hle
      rw [Nat.succ_eq_add_one, Nat.add_assoc, Nat.add_comm 1, times_add] at htimes
      obtain ⟨middle, hbefore, hafter⟩ := htimes
      exact ⟨middle, hbefore, more, hafter⟩

theorem writes_bounded {inner : Pattern} (h : Writes (write inner) R) (least most : Nat)
    (greedy : Bool) :
    Writes (write (.repetition inner least (some most) greedy))
      fun start stop => ∃ count, least ≤ count ∧ count ≤ max least most ∧
        Times R count start stop := by
  refine ((writes_times h least).behind (writes_upTo h greedy (most - least))).congr
    fun start stop => ?_
  constructor
  · rintro ⟨middle, hbefore, count, hcount, hafter⟩
    exact ⟨least + count, by omega, by omega, times_add.mpr ⟨middle, hbefore, hafter⟩⟩
  · rintro ⟨count, hleast, hmost, htimes⟩
    obtain ⟨more, rfl⟩ := Nat.exists_eq_add_of_le hleast
    obtain ⟨middle, hbefore, hafter⟩ := times_add.mp htimes
    exact ⟨middle, hbefore, more, by omega, hafter⟩

/-! ### All patterns -/

/-- The nodes of a pattern go between the places it matches. -/
theorem writes_write (p : Pattern) : Writes (write p) p.Spans := by
  induction p with
  | empty => exact writes_pure
  | set chars =>
    refine writes_emit fun program entry next hnode count start => ?_
    rw [Leads, hnode]
    simp only [Spans]
    constructor
    · rintro ⟨c, rest, hrest, hc, hleads⟩
      exact ⟨start.next, ⟨c, rest, hrest, hc, rfl⟩, hleads⟩
    · rintro ⟨stop, ⟨c, rest, hrest, hc, rfl⟩, hleads⟩
      exact ⟨c, rest, hrest, hc, hleads⟩
  | assertion condition =>
    refine writes_emit fun program entry next hnode count start => ?_
    rw [Leads, hnode]
    simp only [Spans, and_assoc, exists_eq_left, exists_and_left]
  | group index inner ih =>
    have hkeep : ∀ slot, Writes (fun next => emit (.keep slot next))
        fun start stop => stop = start := fun slot =>
      writes_emit fun program entry next hnode count start => by
        rw [Leads, hnode]
        simp only [exists_eq_left]
    refine ((hkeep (2 * index)).behind (ih.behind (hkeep (2 * index + 1)))).congr
      fun start stop => ?_
    simp only [Spans, exists_eq_left, exists_eq_right']
  | sequence a b iha ihb => exact iha.behind ihb
  | choice a b iha ihb => exact iha.fork ihb
  | repetition inner least most greedy ih =>
    cases most with
    | none => exact (writes_unbounded ih least greedy).congr fun start stop => by simp [Spans]
    | some most =>
      exact (writes_bounded ih least most greedy).congr fun start stop => by simp [Spans]

/-- A way leads through the program of a pattern just where the pattern matches. -/
theorem accepts_ofPattern_iff (p : Pattern) (place : Place) :
    (ofPattern p).Accepts (ofPattern p).start place ↔ ∃ stop, p.Spans place stop := by
  obtain ⟨hextends, hjoins⟩ := writes_write p 0 #[.accept]
  have hends : ∀ stop, (ofPattern p).Leads 1 0 stop := fun stop => by
    have hnode : (ofPattern p).nodes[0]? = some .accept := hextends.node_eq 0 (by decide)
    rw [Leads, hnode]
    trivial
  have hall := hjoins (ofPattern p) fun _ _ _ => rfl
  constructor
  · rintro ⟨count, hleads⟩
    obtain ⟨stop, hstop, -⟩ := hall.of_leads hleads
    exact ⟨stop, hstop⟩
  · rintro ⟨stop, hstop⟩
    exact hall.accepts hstop ⟨1, hends stop⟩

end Program

end LinkDigest.Pattern
