import LinkDigest.Proofs.Pattern.Spans
import Mathlib.Data.Finset.Card
import Mathlib.Data.Finset.Filter
import Mathlib.Data.Finset.Range
import Mathlib.Logic.Relation

/-!
# What a search finds

Following all ways through a program at once, each node once between two characters, loses
none that leads to the end. So there is a match in a text just when the pattern matches
between two places of it.
-/

namespace LinkDigest

open LinkDigest.Pattern (Program Node)
open LinkDigest.Matcher

namespace Pattern.Program

variable {program : Program} {node : Nat} {place : Place}

/-- Where a node leads without a character. -/
def turns (program : Program) (place : Place) (node : Nat) : List Nat :=
  match program.nodes[node]? with
  | some (.check condition next) => if holds condition place then [next] else []
  | some (.fork first second) => [first, second]
  | some (.keep _ next) => [next]
  | _ => []

theorem leads_succ_iff {count : Nat} : program.Leads (count + 1) node place ↔
    program.nodes[node]? = some .accept ∨
    (∃ chars next c rest, program.nodes[node]? = some (.consume chars next) ∧
      place.rest = c :: rest ∧ chars.contains c ∧ program.Leads count next place.next) ∨
    ∃ next ∈ program.turns place node, program.Leads count next place := by
  rw [Leads, turns]
  split <;> rename_i hnode <;> simp [hnode]

theorem accepts_iff : program.Accepts node place ↔
    program.nodes[node]? = some .accept ∨
    (∃ chars next c rest, program.nodes[node]? = some (.consume chars next) ∧
      place.rest = c :: rest ∧ chars.contains c ∧ program.Accepts next place.next) ∨
    ∃ next ∈ program.turns place node, program.Accepts next place := by
  constructor
  · rintro ⟨count, hleads⟩
    cases count with
    | zero => exact hleads.elim
    | succ count =>
      rcases leads_succ_iff.mp hleads with h | ⟨chars, next, c, rest, hnode, hrest, hc, h⟩ | h
      · exact .inl h
      · exact .inr (.inl ⟨chars, next, c, rest, hnode, hrest, hc, count, h⟩)
      · obtain ⟨next, hnext, h⟩ := h
        exact .inr (.inr ⟨next, hnext, count, h⟩)
  · rintro (h | ⟨chars, next, c, rest, hnode, hrest, hc, count, h⟩ | ⟨next, hnext, count, h⟩)
    · exact ⟨1, leads_succ_iff.mpr (.inl h)⟩
    · exact ⟨count + 1,
        leads_succ_iff.mpr (.inr (.inl ⟨chars, next, c, rest, hnode, hrest, hc, h⟩))⟩
    · exact ⟨count + 1, leads_succ_iff.mpr (.inr (.inr ⟨next, hnext, h⟩))⟩

/-- A node that waits for a character leads on just by one of its own. -/
theorem accepts_consume {chars : CharSet} {next : Nat}
    (hnode : program.nodes[node]? = some (.consume chars next)) :
    program.Accepts node place ↔
      ∃ c rest, place.rest = c :: rest ∧ chars.contains c ∧ program.Accepts next place.next := by
  rw [accepts_iff, turns, hnode]
  simp

end Pattern.Program

namespace Matcher

open Pattern.Program

variable {program : Program} {place : Place}

/-! ## Between two characters -/

/-- How far the ways have been followed: those still to be followed, the nodes they have
come to, and the ones that wait for a character, the latest first. -/
structure Front where
  ways : List Way
  seen : Nat
  waiting : List Way

/-- What becomes of the first way: it has come to a node for the second time, or to one that
waits, or it turns to where the node leads. -/
inductive Settling (program : Program) (place : Place) : Front → Front → Prop where
  | again {way : Way} {ways waiting : List Way} {seen : Nat} (hseen : seen.testBit way.node) :
    Settling program place ⟨way :: ways, seen, waiting⟩ ⟨ways, seen, waiting⟩
  | waits {way : Way} {ways waiting : List Way} {seen next : Nat} {chars : CharSet}
    (hseen : ¬ seen.testBit way.node)
    (hnode : program.nodes[way.node]? = some (.consume chars next)) :
    Settling program place ⟨way :: ways, seen, waiting⟩
      ⟨ways, seen ||| (1 <<< way.node), way :: waiting⟩
  | turns {way : Way} {ways waiting : List Way} {seen : Nat} (kept : List (Nat × Nat))
    (hseen : ¬ seen.testBit way.node)
    (hconsume : ∀ chars next, program.nodes[way.node]? ≠ some (.consume chars next))
    (haccept : program.nodes[way.node]? ≠ some .accept) :
    Settling program place ⟨way :: ways, seen, waiting⟩
      ⟨(program.turns place way.node).map (fun node => ⟨node, kept ++ way.slots⟩) ++ ways,
        seen ||| (1 <<< way.node), waiting⟩

theorem settle_cons (program : Program) (place : Place) (fuel : Nat) (way : Way)
    (ways : List Way) (seen : Nat) (waiting : List Way) :
    (∃ later, Settling program place ⟨way :: ways, seen, waiting⟩ later ∧
      settle program place (fuel + 1) (way :: ways) seen waiting =
        settle program place fuel later.ways later.seen later.waiting) ∨
    (program.nodes[way.node]? = some .accept ∧
      settle program place (fuel + 1) (way :: ways) seen waiting =
        (waiting.reverse, some ((1, place.offset) :: way.slots))) := by
  rw [settle]
  by_cases hseen : seen.testBit way.node
  · rw [if_pos hseen]
    exact .inl ⟨_, .again hseen, rfl⟩
  · rw [if_neg hseen]
    have hturns : ∀ kept : List (Nat × Nat),
        (∀ chars next, program.nodes[way.node]? ≠ some (.consume chars next)) →
        program.nodes[way.node]? ≠ some .accept →
        Settling program place ⟨way :: ways, seen, waiting⟩
          ⟨(program.turns place way.node).map (fun node => ⟨node, kept ++ way.slots⟩) ++ ways,
            seen ||| (1 <<< way.node), waiting⟩ := fun kept => .turns kept hseen
    unfold Program.turns at hturns
    split
    · rename_i hnode
      rw [hnode] at hturns
      exact .inl ⟨_, hturns [] (by simp) (by simp), rfl⟩
    · rename_i hnode
      exact .inl ⟨_, .waits hseen hnode, rfl⟩
    · rename_i condition next hnode
      rw [hnode] at hturns
      by_cases hholds : holds condition place
      · rw [if_pos hholds]
        simp only [if_pos hholds] at hturns
        exact .inl ⟨_, hturns [] (by simp) (by simp), rfl⟩
      · rw [if_neg hholds]
        simp only [if_neg hholds] at hturns
        exact .inl ⟨_, hturns [] (by simp) (by simp), rfl⟩
    · rename_i hnode
      rw [hnode] at hturns
      exact .inl ⟨_, hturns [] (by simp) (by simp), rfl⟩
    · rename_i slot next hnode
      rw [hnode] at hturns
      exact .inl ⟨_, hturns [(slot, place.offset)] (by simp) (by simp), rfl⟩
    · rename_i hnode
      exact .inr ⟨hnode, rfl⟩

/-- What every step keeps holds after all of them. -/
theorem settling_induction {P : Front → Prop} {front last : Front} (h : P front)
    (hsteps : Relation.ReflTransGen (Settling program place) front last)
    (hkeeps : ∀ {front later}, P front → Settling program place front later → P later) :
    P last := by
  induction hsteps with
  | refl => exact h
  | tail _ hsettling ih => exact hkeeps ih hsettling

/-! ### Enough fuel -/

theorem testBit_mark (seen node other : Nat) :
    (seen ||| (1 <<< node)).testBit other ↔ seen.testBit other ∨ other = node := by
  rw [Nat.testBit_or, Nat.one_shiftLeft, Nat.testBit_two_pow, Bool.or_eq_true, decide_eq_true_eq,
    @eq_comm _ node]

/-- The nodes that no way has come to. -/
def unseen (program : Program) (seen : Nat) : Finset Nat :=
  (Finset.range program.nodes.size).filter fun node => ¬ seen.testBit node

theorem unseen_mark (program : Program) (seen node : Nat) :
    unseen program (seen ||| (1 <<< node)) = (unseen program seen).erase node := by
  ext other
  simp only [unseen, Finset.mem_filter, Finset.mem_erase, testBit_mark]
  tauto

/-- What is left to be done. -/
def Front.size (program : Program) (front : Front) : Nat :=
  front.ways.length + 2 * (unseen program front.seen).card

theorem length_turns_le (program : Program) (place : Place) (node : Nat) :
    (program.turns place node).length ≤ 2 := by
  unfold Program.turns
  split
  · split <;> simp
  · simp
  · simp
  · simp

theorem Settling.size_lt {front later : Front} (h : Settling program place front later) :
    later.size program < front.size program := by
  cases h with
  | again => simp [Front.size]
  | @waits way ways waiting seen =>
    have hle := (unseen program seen).card_erase_le (a := way.node)
    simp only [Front.size, unseen_mark, List.length_cons]
    omega
  | @turns way ways waiting seen kept hseen =>
    have hlength := length_turns_le program place way.node
    simp only [Front.size, unseen_mark, List.length_cons, List.length_append, List.length_map]
    by_cases hnode : way.node < program.nodes.size
    · have hmem : way.node ∈ unseen program seen :=
        Finset.mem_filter.mpr ⟨Finset.mem_range.mpr hnode, hseen⟩
      have hcard := Finset.card_erase_add_one hmem
      omega
    · have hnone : program.turns place way.node = [] := by
        rw [Program.turns, Array.getElem?_eq_none (Nat.le_of_not_lt hnode)]
      have hle := (unseen program seen).card_erase_le (a := way.node)
      rw [hnone, List.length_nil]
      omega

/-- With fuel enough the ways are followed until none is left or one has come to the end. -/
theorem exists_settled (place : Place) {fuel : Nat} {front : Front}
    (hfuel : front.size program ≤ fuel) :
    ∃ last, Relation.ReflTransGen (Settling program place) front last ∧
      (last.ways = [] ∧
          settle program place fuel front.ways front.seen front.waiting =
            (last.waiting.reverse, none) ∨
        ∃ way ∈ last.ways, program.nodes[way.node]? = some .accept ∧
          settle program place fuel front.ways front.seen front.waiting =
            (last.waiting.reverse, some ((1, place.offset) :: way.slots))) := by
  induction fuel generalizing front with
  | zero =>
    obtain ⟨ways, seen, waiting⟩ := front
    have hlength : ways.length + 2 * (unseen program seen).card ≤ 0 := hfuel
    have hways : ways = [] := List.eq_nil_of_length_eq_zero (by omega)
    exact ⟨_, .refl, .inl ⟨hways, rfl⟩⟩
  | succ fuel ih =>
    obtain ⟨ways, seen, waiting⟩ := front
    cases ways with
    | nil => exact ⟨_, .refl, .inl ⟨rfl, rfl⟩⟩
    | cons way ways =>
      rcases settle_cons program place fuel way ways seen waiting with
        ⟨later, hsettling, heq⟩ | ⟨hnode, heq⟩
      · have hsize := hsettling.size_lt
        have hless : later.size program ≤ fuel := by omega
        obtain ⟨last, hlast, hends⟩ := ih hless
        rw [heq]
        exact ⟨last, .head hsettling hlast, hends⟩
      · exact ⟨_, .refl, .inr ⟨way, List.mem_cons_self, hnode, heq⟩⟩

/-! ### No way is lost -/

/-- Whether a way has come to a node, or is still to be followed there. -/
def Front.Reaches (front : Front) (node : Nat) : Prop :=
  front.seen.testBit node ∨ ∃ way ∈ front.ways, way.node = node

theorem Settling.reaches {front later : Front} {node : Nat}
    (h : Settling program place front later) (hreaches : front.Reaches node) :
    later.Reaches node := by
  cases h with
  | again hseen =>
    rcases hreaches with hreaches | ⟨way, hway, rfl⟩
    · exact .inl hreaches
    · rcases List.mem_cons.mp hway with rfl | hway
      · exact .inl hseen
      · exact .inr ⟨way, hway, rfl⟩
  | waits =>
    rcases hreaches with hreaches | ⟨way, hway, rfl⟩
    · exact .inl ((testBit_mark _ _ _).mpr (.inl hreaches))
    · rcases List.mem_cons.mp hway with rfl | hway
      · exact .inl ((testBit_mark _ _ _).mpr (.inr rfl))
      · exact .inr ⟨way, hway, rfl⟩
  | turns =>
    rcases hreaches with hreaches | ⟨way, hway, rfl⟩
    · exact .inl ((testBit_mark _ _ _).mpr (.inl hreaches))
    · rcases List.mem_cons.mp hway with rfl | hway
      · exact .inl ((testBit_mark _ _ _).mpr (.inr rfl))
      · exact .inr ⟨way, List.mem_append_right _ hway, rfl⟩

/-- Whether ways have gone on from a node to all that it leads to, or one of them waits there. -/
structure Front.Leaves (program : Program) (place : Place) (front : Front) (node : Nat) :
    Prop where
  not_accept : program.nodes[node]? ≠ some .accept
  waits : ∀ chars next, program.nodes[node]? = some (.consume chars next) →
    ∃ way ∈ front.waiting, way.node = node
  turns : ∀ next ∈ program.turns place node, front.Reaches next

theorem Settling.leaves {front later : Front} {node : Nat}
    (h : Settling program place front later) (hleaves : front.Leaves program place node) :
    later.Leaves program place node where
  not_accept := hleaves.not_accept
  waits chars next hnode := by
    obtain ⟨way, hway, heq⟩ := hleaves.waits chars next hnode
    cases h with
    | again => exact ⟨way, hway, heq⟩
    | waits => exact ⟨way, List.mem_cons_of_mem _ hway, heq⟩
    | turns => exact ⟨way, hway, heq⟩
  turns next hnext := h.reaches (hleaves.turns next hnext)

/-- Whether a way waits for a character. -/
def Waits (program : Program) (way : Way) : Prop :=
  ∃ chars next, program.nodes[way.node]? = some (.consume chars next)

/-- What holds of a front on the way from its first ways on. -/
structure Follows (program : Program) (place : Place) (first : List Way) (front : Front) :
    Prop where
  /-- No way leads to the end that none of the first ones does. -/
  sound : ∀ way, way ∈ front.ways ∨ way ∈ front.waiting → program.Accepts way.node place →
    ∃ way ∈ first, program.Accepts way.node place
  reaches : ∀ way ∈ first, front.Reaches way.node
  waits : ∀ way ∈ front.waiting, Waits program way
  leaves : ∀ node, front.seen.testBit node → front.Leaves program place node

theorem follows_start (program : Program) (place : Place) (ways : List Way) :
    Follows program place ways ⟨ways, 0, []⟩ where
  sound way hway haccepts := by
    rcases hway with hway | hway
    · exact ⟨way, hway, haccepts⟩
    · cases hway
  reaches way hway := .inr ⟨way, hway, rfl⟩
  waits way hway := by cases hway
  leaves node hseen := by simp at hseen

theorem Follows.settling {first : List Way} {front later : Front}
    (h : Follows program place first front) (hsettling : Settling program place front later) :
    Follows program place first later where
  sound way hway haccepts := by
    cases hsettling with
    | again => exact h.sound way (hway.imp_left (List.mem_cons_of_mem _)) haccepts
    | waits =>
      rcases hway with hway | hway
      · exact h.sound way (.inl (List.mem_cons_of_mem _ hway)) haccepts
      · rcases List.mem_cons.mp hway with rfl | hway
        · exact h.sound way (.inl List.mem_cons_self) haccepts
        · exact h.sound way (.inr hway) haccepts
    | @turns came =>
      rcases hway with hway | hway
      · rcases List.mem_append.mp hway with hway | hway
        · obtain ⟨node, hnode, rfl⟩ := List.mem_map.mp hway
          exact h.sound came (.inl List.mem_cons_self)
            (accepts_iff.mpr (.inr (.inr ⟨node, hnode, haccepts⟩)))
        · exact h.sound way (.inl (List.mem_cons_of_mem _ hway)) haccepts
      · exact h.sound way (.inr hway) haccepts
  reaches way hway := hsettling.reaches (h.reaches way hway)
  waits := by
    cases hsettling with
    | again => exact h.waits
    | waits hseen hnode =>
      intro way hway
      rcases List.mem_cons.mp hway with rfl | hway
      · exact ⟨_, _, hnode⟩
      · exact h.waits way hway
    | turns => exact h.waits
  leaves node hseen := by
    have hbefore := fun hseen => hsettling.leaves (h.leaves node hseen)
    cases hsettling with
    | again => exact hbefore hseen
    | @waits came _ _ _ _ _ _ hnode =>
      rcases (testBit_mark _ _ _).mp hseen with hseen | rfl
      · exact hbefore hseen
      · exact {
          not_accept := by simp [hnode]
          waits := fun _ _ _ => ⟨came, List.mem_cons_self, rfl⟩
          turns := by simp [Program.turns, hnode] }
    | @turns came _ _ _ _ _ hconsume haccept =>
      rcases (testBit_mark _ _ _).mp hseen with hseen | rfl
      · exact hbefore hseen
      · exact {
          not_accept := haccept
          waits := fun chars next hnext => absurd hnext (hconsume chars next)
          turns := fun next hnext =>
            .inr ⟨_, List.mem_append_left _ (List.mem_map.mpr ⟨next, hnext, rfl⟩), rfl⟩ }

/-- Where no way is left to be followed, what leads on to the end waits. -/
theorem Follows.exists_waiting {first : List Way} {last : Front} {node : Nat}
    (h : Follows program place first last) (hways : last.ways = [])
    (hreaches : last.Reaches node) (haccepts : program.Accepts node place) :
    ∃ way ∈ last.waiting, program.Accepts way.node place := by
  have hseen : ∀ {node}, last.Reaches node → last.seen.testBit node := fun hreaches =>
    hreaches.resolve_right fun ⟨way, hway, _⟩ => by
      rw [hways] at hway
      cases hway
  obtain ⟨count, hleads⟩ := haccepts
  induction count generalizing node with
  | zero => exact hleads.elim
  | succ count ih =>
    have hleaves := h.leaves node (hseen hreaches)
    rcases leads_succ_iff.mp hleads with
      hend | ⟨chars, next, _, _, hnode, _⟩ | ⟨next, hnext, hleads⟩
    · exact absurd hend hleaves.not_accept
    · obtain ⟨way, hway, rfl⟩ := hleaves.waits chars next hnode
      exact ⟨way, hway, count + 1, hleads⟩
    · exact ih (hleaves.turns next hnext) hleads

/-! ### Where a match begins -/

/-- Whether slots tell where a match begins. -/
def Begun (slots : List (Nat × Nat)) : Prop := (slots.lookup 0).isSome

theorem Begun.cons {slots : List (Nat × Nat)} (h : Begun slots) (kept : Nat × Nat) :
    Begun (kept :: slots) := by
  rw [Begun, List.lookup_cons]
  split
  · rfl
  · exact h

theorem Begun.append {slots : List (Nat × Nat)} (h : Begun slots) (kept : List (Nat × Nat)) :
    Begun (kept ++ slots) := by
  induction kept with
  | nil => exact h
  | cons slot kept ih => exact ih.cons slot

/-- Whether all ways tell where they began. -/
def Front.AllBegun (front : Front) : Prop :=
  (∀ way ∈ front.ways, Begun way.slots) ∧ ∀ way ∈ front.waiting, Begun way.slots

theorem Front.AllBegun.settling {front later : Front} (hbegun : front.AllBegun)
    (h : Settling program place front later) : later.AllBegun := by
  obtain ⟨hways, hwaiting⟩ := hbegun
  cases h with
  | again => exact ⟨fun way hway => hways way (List.mem_cons_of_mem _ hway), hwaiting⟩
  | waits =>
    exact ⟨fun way hway => hways way (List.mem_cons_of_mem _ hway),
      List.forall_mem_cons.mpr ⟨hways _ List.mem_cons_self, hwaiting⟩⟩
  | turns kept =>
    refine ⟨fun way hway => ?_, hwaiting⟩
    rcases List.mem_append.mp hway with hway | hway
    · obtain ⟨node, -, rfl⟩ := List.mem_map.mp hway
      exact (hways _ List.mem_cons_self).append kept
    · exact hways way (List.mem_cons_of_mem _ hway)

/-! ### All ways at a place -/

/-- What following ways has found, be it the ways that wait or one that has come to the end. -/
structure Settled (program : Program) (place : Place) (ways : List Way)
    (result : List Way × Option (List (Nat × Nat))) : Prop where
  accepts_iff : (∃ way ∈ ways, program.Accepts way.node place) ↔
    result.2.isSome ∨ ∃ way ∈ result.1, program.Accepts way.node place
  waits : ∀ way ∈ result.1, Waits program way
  waiting_begun : (∀ way ∈ ways, Begun way.slots) → ∀ way ∈ result.1, Begun way.slots
  found_begun : (∀ way ∈ ways, Begun way.slots) →
    ∀ slots ∈ result.2, Begun slots ∧ (slots.lookup 1).isSome

theorem settled_settle {fuel : Nat} {ways : List Way}
    (hfuel : ways.length + 2 * program.nodes.size ≤ fuel) :
    Settled program place ways (settle program place fuel ways 0 []) := by
  have hsize : Front.size program ⟨ways, 0, []⟩ ≤ fuel := by
    have hcard := Finset.card_filter_le (Finset.range program.nodes.size)
      fun node => ¬ Nat.testBit 0 node
    rw [Finset.card_range] at hcard
    simp only [Front.size, unseen]
    omega
  obtain ⟨last, hsteps, hends⟩ := exists_settled place hsize
  have hfollows : Follows program place ways last :=
    settling_induction (follows_start program place ways) hsteps Follows.settling
  have hbegun (hways : ∀ way ∈ ways, Begun way.slots) : last.AllBegun :=
    settling_induction ⟨hways, fun way hway => by cases hway⟩ hsteps Front.AllBegun.settling
  rcases hends with ⟨hways, heq⟩ | ⟨way, hway, hnode, heq⟩
  · rw [heq]
    refine ⟨⟨?_, ?_⟩, fun way hway => hfollows.waits way (List.mem_reverse.mp hway),
      fun hways way hway => (hbegun hways).2 way (List.mem_reverse.mp hway),
      fun _ slots hslots => by cases hslots⟩
    · rintro ⟨way, hway, haccepts⟩
      obtain ⟨later, hlater, haccepts⟩ :=
        hfollows.exists_waiting hways (hfollows.reaches way hway) haccepts
      exact .inr ⟨later, List.mem_reverse.mpr hlater, haccepts⟩
    · rintro (hnone | ⟨way, hway, haccepts⟩)
      · cases hnone
      · exact hfollows.sound way (.inr (List.mem_reverse.mp hway)) haccepts
  · rw [heq]
    refine ⟨⟨fun _ => .inl rfl, fun _ => ?_⟩,
      fun way hway => hfollows.waits way (List.mem_reverse.mp hway),
      fun hways way hway => (hbegun hways).2 way (List.mem_reverse.mp hway), ?_⟩
    · exact hfollows.sound way (.inl hway) (accepts_iff.mpr (.inl hnode))
    · rintro hways slots hslots
      cases hslots
      exact ⟨((hbegun hways).1 way hway).cons _, rfl⟩

/-! ## Character by character -/

/-- Ways that wait go on just if the next character lets them. -/
theorem accepts_consume_iff {offset : Nat} {before : Option Char} {c : Char} {rest : List Char}
    {waiting : List Way} (hwaits : ∀ way ∈ waiting, Waits program way) :
    (∃ way ∈ waiting, program.Accepts way.node ⟨offset, before, c :: rest⟩) ↔
      ∃ way ∈ consume program c waiting,
        program.Accepts way.node ⟨offset + 1, some c, rest⟩ := by
  constructor
  · rintro ⟨way, hway, haccepts⟩
    obtain ⟨chars, next, hnode⟩ := hwaits way hway
    obtain ⟨d, more, hrest, hd, haccepts⟩ := (accepts_consume hnode).mp haccepts
    cases hrest
    refine ⟨⟨next, way.slots⟩, List.mem_filterMap.mpr ⟨way, hway, ?_⟩, haccepts⟩
    rw [hnode]
    exact if_pos hd
  · rintro ⟨way, hway, haccepts⟩
    obtain ⟨earlier, hearlier, hgoes⟩ := List.mem_filterMap.mp hway
    obtain ⟨chars, next, hnode⟩ := hwaits earlier hearlier
    simp only [hnode, Option.ite_none_right_eq_some, Option.some.injEq] at hgoes
    obtain ⟨hc, rfl⟩ := hgoes
    exact ⟨earlier, hearlier, (accepts_consume hnode).mpr ⟨c, rest, rfl, hc, haccepts⟩⟩

/-- At the end of a text no way that waits goes on. -/
theorem not_accepts_of_waits {offset : Nat} {before : Option Char} {way : Way}
    (hwaits : Waits program way) : ¬ program.Accepts way.node ⟨offset, before, []⟩ := by
  obtain ⟨chars, next, hnode⟩ := hwaits
  intro haccepts
  obtain ⟨c, rest, hrest, -⟩ := (accepts_consume hnode).mp haccepts
  cases hrest

theorem begun_of_mem_consume {c : Char} {waiting : List Way}
    (hbegun : ∀ way ∈ waiting, Begun way.slots) :
    ∀ way ∈ consume program c waiting, Begun way.slots := by
  intro way hway
  obtain ⟨earlier, hearlier, hgoes⟩ := List.mem_filterMap.mp hway
  split at hgoes
  · split at hgoes
    · cases hgoes
      exact hbegun earlier hearlier
    · cases hgoes
  · cases hgoes

/-- The ways followed at a place, with the one that begins there as long as there is no match. -/
def entered (program : Program) (offset : Nat) (ways : List Way)
    (best : Option (List (Nat × Nat))) : List Way :=
  if best.isNone then ways ++ [⟨program.start, [(0, offset)]⟩] else ways

theorem exists_entered_iff {offset : Nat} {ways : List Way} :
    (∃ way ∈ entered program offset ways none, program.Accepts way.node place) ↔
      (∃ way ∈ ways, program.Accepts way.node place) ∨ program.Accepts program.start place := by
  simp [entered, or_and_right, exists_or]

theorem begun_of_mem_entered {offset : Nat} {ways : List Way}
    {best : Option (List (Nat × Nat))} (hways : ∀ way ∈ ways, Begun way.slots) :
    ∀ way ∈ entered program offset ways best, Begun way.slots := by
  intro way hway
  unfold entered at hway
  split at hway
  · rcases List.mem_append.mp hway with hway | hway
    · exact hways way hway
    · cases List.mem_singleton.mp hway
      rfl
  · exact hways way hway

/-- What a search does at one place. -/
theorem searchFrom_eq (program : Program) (offset : Nat) (before : Option Char) (ways : List Way)
    (best : Option (List (Nat × Nat))) (rest : List Char) :
    ∃ waiting found,
      Settled program ⟨offset, before, rest⟩ (entered program offset ways best) (waiting, found) ∧
      searchFrom program offset before ways best rest =
        match rest with
        | [] => found.or best
        | c :: rest =>
          if (consume program c waiting).isEmpty && (found.or best).isSome then found.or best
          else searchFrom program (offset + 1) (some c) (consume program c waiting)
            (found.or best) rest := by
  refine ⟨_, _, settled_settle (Nat.le_succ _), ?_⟩
  rw [searchFrom.eq_def]
  rfl

/-- A search finds something just when a way leads to the end, be it one of those there
are or one that begins further on. -/
theorem isSome_searchFrom_iff {offset : Nat} {before : Option Char} {ways : List Way}
    {best : Option (List (Nat × Nat))} {rest : List Char} :
    (searchFrom program offset before ways best rest).isSome ↔ best.isSome ∨
      (∃ way ∈ ways, program.Accepts way.node ⟨offset, before, rest⟩) ∨
      ∃ count ≤ rest.length,
        program.Accepts program.start ((Place.mk offset before rest).advance count) := by
  induction rest generalizing offset before ways best with
  | nil =>
    obtain ⟨waiting, found, hsettled, heq⟩ := searchFrom_eq program offset before ways best []
    rw [heq]
    cases best with
    | some slots => simp
    | none =>
      have hnone : ¬ ∃ way ∈ waiting, program.Accepts way.node ⟨offset, before, []⟩ :=
        fun ⟨way, hway, haccepts⟩ => not_accepts_of_waits (hsettled.waits way hway) haccepts
      have hfound := hsettled.accepts_iff
      rw [exists_entered_iff, or_iff_left hnone] at hfound
      simp [← hfound, Place.advance]
  | cons c rest ih =>
    obtain ⟨waiting, found, hsettled, heq⟩ :=
      searchFrom_eq program offset before ways best (c :: rest)
    rw [heq]
    cases best with
    | some slots =>
      dsimp only
      split
      · simp
      · rw [ih]
        simp
    | none =>
      have hfound := hsettled.accepts_iff
      rw [exists_entered_iff, accepts_consume_iff hsettled.waits] at hfound
      have hbegins : (∃ count ≤ (c :: rest).length,
            program.Accepts program.start ((Place.mk offset before (c :: rest)).advance count)) ↔
          program.Accepts program.start ⟨offset, before, c :: rest⟩ ∨ ∃ count ≤ rest.length,
            program.Accepts program.start
              ((Place.mk (offset + 1) (some c) rest).advance count) := by
        simp only [← Nat.lt_succ_iff, Nat.succ_eq_add_one, List.length_cons]
        exact Nat.exists_lt_succ_left
      rw [hbegins, ← or_assoc (a := ∃ way ∈ ways, _), hfound]
      simp only [Option.or_none, Option.isSome_none, Bool.false_eq_true, false_or, or_assoc]
      split
      · rename_i hdone
        simp only [Bool.and_eq_true] at hdone
        simp [hdone.2]
      · exact ih

/-- Whether slots tell where a match begins and ends. -/
def Bounded (slots : List (Nat × Nat)) : Prop := Begun slots ∧ (slots.lookup 1).isSome

theorem Settled.or_bounded {ways waiting : List Way} {found best : Option (List (Nat × Nat))}
    (h : Settled program place ways (waiting, found)) (hways : ∀ way ∈ ways, Begun way.slots)
    (hbest : ∀ slots ∈ best, Bounded slots) : ∀ slots ∈ found.or best, Bounded slots := by
  intro slots hslots
  rcases Option.or_eq_some_iff.mp hslots with hslots | ⟨-, hslots⟩
  · exact h.found_begun hways slots hslots
  · exact hbest slots hslots

theorem bounded_of_mem_searchFrom {offset : Nat} {before : Option Char} {ways : List Way}
    {best : Option (List (Nat × Nat))} {rest : List Char} (hways : ∀ way ∈ ways, Begun way.slots)
    (hbest : ∀ slots ∈ best, Bounded slots) :
    ∀ slots ∈ searchFrom program offset before ways best rest, Bounded slots := by
  induction rest generalizing offset before ways best with
  | nil =>
    obtain ⟨waiting, found, hsettled, heq⟩ := searchFrom_eq program offset before ways best []
    rw [heq]
    exact hsettled.or_bounded (begun_of_mem_entered hways) hbest
  | cons c rest ih =>
    obtain ⟨waiting, found, hsettled, heq⟩ :=
      searchFrom_eq program offset before ways best (c :: rest)
    have hor := hsettled.or_bounded (begun_of_mem_entered hways) hbest
    rw [heq]
    dsimp only
    split
    · exact hor
    · exact ih (begun_of_mem_consume (hsettled.waiting_begun (begun_of_mem_entered hways))) hor

/-- There is a match in a text just when the pattern matches between two places of it. -/
theorem isMatch_iff (p : Pattern) (names : List (List Char × Nat)) (text : List Char) :
    (Matcher.mk (.ofPattern p) names).isMatch text ↔
      ∃ count ≤ text.length, ∃ stop, p.Spans ((Place.start text).advance count) stop := by
  have hsearch : (searchFrom (.ofPattern p) 0 none [] none text).isSome ↔
      ∃ count ≤ text.length, ∃ stop, p.Spans ((Place.start text).advance count) stop := by
    rw [isSome_searchFrom_iff]
    simp only [accepts_ofPattern_iff, Option.isSome_none, Bool.false_eq_true, false_or,
      List.not_mem_nil, false_and, exists_false]
    rfl
  rw [← hsearch, isMatch, find?]
  cases hfound : searchFrom (.ofPattern p) 0 none [] none text with
  | none => simp [Place.start, hfound]
  | some slots =>
    obtain ⟨hbegun, hended⟩ := bounded_of_mem_searchFrom (by simp) (by simp) slots hfound
    obtain ⟨start, hstart⟩ := Option.isSome_iff_exists.mp hbegun
    obtain ⟨stop, hstop⟩ := Option.isSome_iff_exists.mp hended
    simp [Place.start, hfound, hstart, hstop]

end Matcher

end LinkDigest
