import LinkDigest.Proofs.Board.History
import Mathlib.Data.List.Induction

/-!
# What numbers say of links

Groups of one number are of one link, and a link that stays known keeps its number. Both are
matters of all that went before: which groups have been given, for which clusters, and which
links were forgotten in between.
-/

namespace LinkDigest.Board

/-! ## Numbers -/

/-- The number of a group. -/
def seq? (board : Board) (id : GroupId) : Option Nat :=
  board.groups[id]?.map fun group => group.seq

/-- The number of the group known for a link. -/
def number? (board : Board) (url : String) : Option Nat := (board.find? url).bind board.seq?

/-- The number of the group that is given for a cluster. -/
def numberFor? (board : Board) (link : LinkId) : Option Nat :=
  (board.groupFor? link).bind fun (id, next) => next.seq? id

/-- The numbers of the groups given, in the order in which they were given. -/
def History.numbers (history : History) : List Nat :=
  history.given.filterMap fun asked => history.board.seq? asked.2

/-- For a link a group was given last, and this was asked for a cluster. -/
def History.GaveLast (history : History) (url : String) (asked : LinkId × GroupId) : Prop :=
  ∃ front back, history.given = front ++ asked :: back ∧
    history.board.urls[asked.1]? = some url ∧
    ∀ later ∈ back, history.board.urls[later.1]? ≠ some url

/-! ## The group that is given -/

variable {board after next : Board} {url : String} {link : LinkId} {id : GroupId} {number : Nat}

theorem seq?_eq {group : Group} (h : board.groups[id]? = some group) :
    board.seq? id = some group.seq := by
  rw [seq?, h, Option.map_some]

theorem seq?_newGroup (board : Board) (seq : Nat) (link : LinkId) (url : String) :
    (board.newGroup seq link url).2.seq? board.nextGroup = some seq := by
  simp [newGroup, know, addGroup, nextGroup, seq?, Group.new]

theorem exists_of_urls (h : board.urls[link]? = some url) :
    ∃ cluster, board.links[link]? = some cluster ∧ cluster.url = url := by
  rw [urls, List.getElem?_map] at h
  exact Option.map_eq_some_iff.mp h

theorem Extends.seq? (h : Extends board after) (hseq : board.seq? id = some number) :
    after.seq? id = some number := by
  obtain ⟨group, hgroup, rfl⟩ := Option.map_eq_some_iff.mp hseq
  obtain ⟨kept, hkept, hnumber, -⟩ := h.group id group hgroup
  rw [seq?_eq hkept, hnumber]

theorem Extends.urls (h : Extends board after) (hurl : board.urls[link]? = some url) :
    after.urls[link]? = some url := by
  obtain ⟨cluster, hcluster, rfl⟩ := exists_of_urls hurl
  obtain ⟨kept, hkept, hsame⟩ := h.link link cluster hcluster
  rw [urls_eq hkept, (Cluster.eq_of_untitled hsame).1]

theorem number?_eq {group : Group} (hfind : board.find? url = some id)
    (hgroup : board.groups[id]? = some group) : board.number? url = some group.seq := by
  rw [number?, hfind, Option.bind_some, seq?_eq hgroup]

/-- What becomes of the numbers when a group is given: it has the number of the group known
for the link, or else the next one, and it is the group known from then on. -/
structure Numbers (board : Board) (url : String) (id : GroupId) (next : Board) : Prop where
  seq? : next.seq? id = some ((board.number? url).getD (board.issued + 1))
  issued : next.issued = if (board.number? url).isSome then board.issued else board.issued + 1
  find? : ∀ other, next.find? other = if other = url then some id else board.find? other
  nodup : (board.known.map Prod.fst).Nodup → (next.known.map Prod.fst).Nodup

theorem nodup_know (h : (board.known.map Prod.fst).Nodup) (url : String) (id : GroupId) :
    ((board.know url id).known.map Prod.fst).Nodup := by
  refine List.nodup_cons.mpr ⟨?_, h.sublist (List.filter_sublist.map Prod.fst)⟩
  intro hmem
  obtain ⟨entry, hentry, hurl⟩ := List.mem_map.mp hmem
  simpa [hurl] using (List.mem_filter.mp hentry).2

theorem Given.numbers (h : Given board link id next) (hurl : board.urls[link]? = some url) :
    Numbers board url id next := by
  obtain ⟨cluster, hcluster, hgives⟩ := h.gives
  obtain rfl : cluster.url = url := by
    rw [urls_eq hcluster, Option.some.injEq] at hurl
    exact hurl
  cases hgives with
  | known _ group hfind hgroup =>
    have hnumber := number?_eq hfind hgroup
    refine ⟨by rw [hnumber, seq?_eq hgroup]; rfl, by rw [hnumber]; rfl, ?_, fun hnodup => hnodup⟩
    intro other
    split
    · rename_i heq
      rw [heq, hfind]
    · rfl
  | fresh hfind =>
    have hnumber : board.number? cluster.url = none := by rw [number?, hfind, Option.bind_none]
    refine ⟨?_, by rw [hnumber]; rfl, find?_newGroup _ _ link cluster.url,
      fun hnodup => nodup_know hnodup cluster.url _⟩
    rw [hnumber]
    exact seq?_newGroup _ _ link cluster.url
  | renewed known group hfind hgroup =>
    have hnumber := number?_eq hfind hgroup
    refine ⟨?_, by rw [hnumber]; rfl, find?_newGroup (board.setVisible known false) _ link
      cluster.url, fun hnodup => nodup_know hnodup cluster.url _⟩
    rw [hnumber]
    exact seq?_newGroup (board.setVisible known false) _ link cluster.url

/-- The number that a cluster's group has when it is asked for. -/
theorem Sound.numberFor? (h : board.Sound) (hurl : board.urls[link]? = some url) :
    board.numberFor? link = some ((board.number? url).getD (board.issued + 1)) := by
  obtain ⟨cluster, hcluster, -⟩ := exists_of_urls hurl
  obtain ⟨id, next, hnext, hgiven⟩ := h.groupFor? hcluster
  rw [Board.numberFor?, hnext, Option.bind_some]
  exact (hgiven.numbers hurl).seq?

theorem eq_of_gives? {action : Action} {answer : LinkId × GroupId}
    (h : board.gives? action = some answer) : action = .groupFor answer.1 := by
  cases action with
  | groupFor link =>
    obtain ⟨_, _, rfl⟩ := Option.map_eq_some_iff.mp h
    rfl
  | _ => cases h

/-- What becomes of a link: a group is given for it, or it is known as before, or it is not
known. -/
theorem find?_act (h : board.Sound) (action : Action) (url : String) :
    (∃ link id, action = .groupFor link ∧ (board.act action).urls[link]? = some url ∧
      (board.act action).find? url = some id ∧
      (board.act action).seq? id = some ((board.number? url).getD (board.issued + 1))) ∨
    (board.act action).find? url = board.find? url ∨ (board.act action).find? url = none := by
  have hdoes := does_act h action
  cases hgives : board.gives? action with
  | none =>
    rw [hgives] at hdoes
    obtain ⟨-, keep, hknown⟩ := hdoes.known
    rw [find?, hknown, lookup_filter]
    split
    · exact .inr (.inl rfl)
    · exact .inr (.inr rfl)
  | some answer =>
    have haction := eq_of_gives? hgives
    rw [hgives] at hdoes
    generalize board.act action = next at hdoes
    cases hdoes with
    | give hgiven =>
      obtain ⟨cluster, hcluster, -⟩ := hgiven.gives
      have hurl := urls_eq hcluster
      have hnumbers := hgiven.numbers hurl
      rw [hnumbers.find?]
      split
      · rename_i hsame
        subst hsame
        exact .inl ⟨_, _, haction, hgiven.toGroupFor.keeps.toExtends.urls hurl, rfl,
          hnumbers.seq?⟩
      · exact .inr (.inl rfl)

/-! ## What numbers say at any time -/

theorem eraseDups_concat {α : Type} [DecidableEq α] (xs : List α) (x : α) :
    (xs ++ [x]).eraseDups = if x ∈ xs then xs.eraseDups else xs.eraseDups ++ [x] := by
  rw [List.eraseDups_append]
  by_cases h : x ∈ xs
  · simp [List.removeAll, h]
  · have hkept : [x].removeAll xs = [x] := by simp [List.removeAll, h]
    rw [hkept, if_neg h, List.eraseDups_cons]
    rfl

namespace History

variable {history : History}

/-- The groups given are those of the clusters that were asked for, and what they say of
links holds together. -/
structure Consistent (history : History) : Prop where
  sound : history.board.Sound
  made : ∀ asked ∈ history.given, ∃ group,
    history.board.groups[asked.2]? = some group ∧ group.link = asked.1
  numbers : history.numbers.eraseDups = List.range' 1 history.board.issued
  url_eq : ∀ a ∈ history.given, ∀ b ∈ history.given,
    history.board.seq? a.2 = history.board.seq? b.2 →
    history.board.urls[a.1]? = history.board.urls[b.1]?
  nodup : (history.board.known.map Prod.fst).Nodup
  last : ∀ url id, history.board.find? url = some id → ∃ link, history.GaveLast url (link, id)

theorem mem_numbers {asked : LinkId × GroupId} (h : asked ∈ history.given)
    (hseq : history.board.seq? asked.2 = some number) : number ∈ history.numbers :=
  List.mem_filterMap.mpr ⟨asked, h, hseq⟩

theorem GaveLast.mem {asked : LinkId × GroupId} (h : history.GaveLast url asked) :
    asked ∈ history.given := by
  obtain ⟨front, back, hgiven, -⟩ := h
  rw [hgiven]
  simp

theorem GaveLast.urls_eq {asked : LinkId × GroupId} (h : history.GaveLast url asked) :
    history.board.urls[asked.1]? = some url := by
  obtain ⟨front, back, -, hurl, -⟩ := h
  exact hurl

namespace Consistent

theorem start : Consistent ⟨empty, []⟩ where
  sound := .empty
  made _ h := absurd h List.not_mem_nil
  numbers := rfl
  url_eq _ h := absurd h List.not_mem_nil
  nodup := List.nodup_nil
  last _ _ h := nomatch h

variable {after : Board} {action : Action}

theorem le_issued (h : history.Consistent) (hnumber : number ∈ history.numbers) :
    number ≤ history.board.issued := by
  rw [← List.mem_eraseDups, h.numbers, List.mem_range'_1] at hnumber
  omega

/-- A group that was given has a number and a link. -/
theorem exists_of_given (h : history.Consistent) {asked : LinkId × GroupId}
    (hasked : asked ∈ history.given) : ∃ number url,
      history.board.seq? asked.2 = some number ∧ history.board.urls[asked.1]? = some url := by
  obtain ⟨group, hgroup, hlink⟩ := h.made asked hasked
  obtain ⟨cluster, hcluster, -⟩ := h.sound.exists_cluster hgroup
  exact ⟨group.seq, cluster.url, seq?_eq hgroup, hlink ▸ urls_eq hcluster⟩

/-- They keep both. -/
theorem steady (h : history.Consistent) (hextends : Extends history.board after)
    {asked : LinkId × GroupId} (hasked : asked ∈ history.given) :
    after.seq? asked.2 = history.board.seq? asked.2 ∧
      after.urls[asked.1]? = history.board.urls[asked.1]? := by
  obtain ⟨number, url, hseq, hurl⟩ := h.exists_of_given hasked
  exact ⟨(hextends.seq? hseq).trans hseq.symm, (hextends.urls hurl).trans hurl.symm⟩

theorem made_steady (h : history.Consistent) (hextends : Extends history.board after)
    {asked : LinkId × GroupId} (hasked : asked ∈ history.given) :
    ∃ group, after.groups[asked.2]? = some group ∧ group.link = asked.1 := by
  obtain ⟨group, hgroup, hlink⟩ := h.made asked hasked
  obtain ⟨kept, hkept, -, hsame⟩ := hextends.group _ _ hgroup
  exact ⟨kept, hkept, hsame.trans hlink⟩

theorem url_eq_steady (h : history.Consistent) (hextends : Extends history.board after)
    {a b : LinkId × GroupId} (ha : a ∈ history.given) (hb : b ∈ history.given)
    (hseq : after.seq? a.2 = after.seq? b.2) : after.urls[a.1]? = after.urls[b.1]? := by
  rw [(h.steady hextends ha).1, (h.steady hextends hb).1] at hseq
  rw [(h.steady hextends ha).2, (h.steady hextends hb).2]
  exact h.url_eq a ha b hb hseq

theorem numbers_steady (h : history.Consistent) (hextends : Extends history.board after) :
    (history.given.filterMap fun asked => after.seq? asked.2) = history.numbers :=
  List.filterMap_congr fun _ hasked => (h.steady hextends hasked).1

/-- What was given last for a link stays so as long as none is given for it. -/
theorem gaveLast_append (h : history.Consistent) (hextends : Extends history.board after)
    {asked : LinkId × GroupId} (hasked : history.GaveLast url asked)
    (more : List (LinkId × GroupId)) (hmore : ∀ later ∈ more, after.urls[later.1]? ≠ some url) :
    History.GaveLast ⟨after, history.given ++ more⟩ url asked := by
  obtain ⟨front, back, hgiven, hurl, hback⟩ := hasked
  refine ⟨front, back ++ more, ?_, hextends.urls hurl, ?_⟩
  · show history.given ++ more = _
    rw [hgiven, List.append_assoc, List.cons_append]
  · intro later hlater
    rcases List.mem_append.mp hlater with hold | hnew
    · have hmem : later ∈ history.given := hgiven ▸ by simp [hold]
      rw [(h.steady hextends hmem).2]
      exact hback later hold
    · exact hmore later hnew

/-- When no group is given, all that was said holds still. -/
theorem of_none (h : history.Consistent) (hdoes : Does history.board none after) :
    Consistent ⟨after, history.given ++ []⟩ := by
  have hextends := hdoes.extends
  obtain ⟨hissued, keep, hknown⟩ := hdoes.known
  rw [List.append_nil]
  refine ⟨hdoes.sound h.sound, fun _ => h.made_steady hextends, ?_,
    fun _ ha _ => h.url_eq_steady hextends ha, ?_, ?_⟩
  · show (history.given.filterMap fun asked => after.seq? asked.2).eraseDups = _
    rw [h.numbers_steady hextends, h.numbers, hissued]
  · rw [hknown]
    exact h.nodup.sublist (List.filter_sublist.map Prod.fst)
  · intro url id hfind
    rw [find?, hknown, lookup_filter] at hfind
    split at hfind
    · obtain ⟨link, hlast⟩ := h.last url id hfind
      refine ⟨link, ?_⟩
      have hsame := h.gaveLast_append hextends hlast [] (by simp)
      rwa [List.append_nil] at hsame
    · cases hfind

/-- A number by which a link is known was given to a group of this link. -/
theorem exists_of_number? (h : history.Consistent)
    (hnumber : history.board.number? url = some number) : ∃ asked ∈ history.given,
      history.board.urls[asked.1]? = some url ∧ history.board.seq? asked.2 = some number := by
  obtain ⟨id, hfind, hseq⟩ := Option.bind_eq_some_iff.mp hnumber
  obtain ⟨link, hlast⟩ := h.last url id hfind
  exact ⟨(link, id), hlast.mem, hlast.urls_eq, hseq⟩

/-- All groups that have the number which a link has, or is to have, are of this link. -/
theorem url_of_number (h : history.Consistent) {asked : LinkId × GroupId}
    (hasked : asked ∈ history.given) (hseq : history.board.seq? asked.2 =
      some ((history.board.number? url).getD (history.board.issued + 1))) :
    history.board.urls[asked.1]? = some url := by
  cases hnumber : history.board.number? url with
  | some number =>
    obtain ⟨known, hknown, hurl, hsame⟩ := h.exists_of_number? hnumber
    rw [hnumber, Option.getD_some] at hseq
    exact (h.url_eq asked hasked known hknown (hseq.trans hsame.symm)).trans hurl
  | none =>
    rw [hnumber, Option.getD_none] at hseq
    have hle := h.le_issued (mem_numbers hasked hseq)
    omega

theorem numbers_of_given (h : history.Consistent) (hextends : Extends history.board next)
    (hnumbers : Numbers history.board url id next) :
    (History.numbers ⟨next, history.given ++ [(link, id)]⟩).eraseDups =
      List.range' 1 next.issued := by
  have hmap : History.numbers ⟨next, history.given ++ [(link, id)]⟩ = history.numbers ++
      [(history.board.number? url).getD (history.board.issued + 1)] := by
    rw [History.numbers, List.filterMap_append, h.numbers_steady hextends]
    simp [hnumbers.seq?]
  rw [hmap, eraseDups_concat, h.numbers, hnumbers.issued]
  cases hnumber : history.board.number? url with
  | some number =>
    obtain ⟨known, hknown, -, hsame⟩ := h.exists_of_number? hnumber
    rw [Option.getD_some, if_pos (mem_numbers hknown hsame)]
    rfl
  | none =>
    -- The next number has not been given out.
    have hnew : history.board.issued + 1 ∉ history.numbers := fun hmem =>
      absurd (h.le_issued hmem) (by omega)
    rw [Option.getD_none, if_neg hnew]
    show _ = List.range' 1 (history.board.issued + 1)
    rw [List.range'_1_concat, Nat.add_comm]

theorem of_given (h : history.Consistent) (hgiven : Given history.board link id next) :
    Consistent ⟨next, history.given ++ [(link, id)]⟩ := by
  have hextends := hgiven.toGroupFor.keeps.toExtends
  obtain ⟨cluster, hcluster, -⟩ := hgiven.gives
  have hurl := urls_eq hcluster
  have hnext := hextends.urls hurl
  have hnumbers := hgiven.numbers hurl
  refine ⟨hgiven.toGroupFor.sound h.sound hgiven.lt, ?_, h.numbers_of_given hextends hnumbers, ?_,
    hnumbers.nodup h.nodup, ?_⟩
  · intro asked hasked
    rcases List.mem_append.mp hasked with hold | hnew
    · exact h.made_steady hextends hold
    · rw [List.mem_singleton.mp hnew]
      exact hgiven.group
  · -- Whether its number was taken over or is the next one, all that have it are of its link.
    have hnew : ∀ asked ∈ history.given, next.seq? asked.2 = next.seq? id →
        next.urls[asked.1]? = next.urls[link]? := by
      intro asked hasked hseq
      rw [(h.steady hextends hasked).1, hnumbers.seq?] at hseq
      rw [(h.steady hextends hasked).2, h.url_of_number hasked hseq, hnext]
    intro a ha b hb hseq
    rcases List.mem_append.mp ha with ha | ha <;> rcases List.mem_append.mp hb with hb | hb
    · exact h.url_eq_steady hextends ha hb hseq
    · rw [List.mem_singleton.mp hb] at hseq ⊢
      exact hnew a ha hseq
    · rw [List.mem_singleton.mp ha] at hseq ⊢
      exact (hnew b hb hseq.symm).symm
    · rw [List.mem_singleton.mp ha, List.mem_singleton.mp hb]
  · intro other known hfind
    rw [hnumbers.find?] at hfind
    split at hfind
    · rename_i hother
      cases hfind
      exact ⟨link, history.given, [], rfl, hother ▸ hnext, by simp⟩
    · rename_i hother
      obtain ⟨last, hlast⟩ := h.last other known hfind
      refine ⟨last, h.gaveLast_append hextends hlast [(link, id)] ?_⟩
      rintro _ hlater heq
      rw [List.mem_singleton.mp hlater, hnext, Option.some.injEq] at heq
      exact hother heq.symm

theorem act (h : history.Consistent) (action : Action) : (history.act action).Consistent := by
  have hdoes := does_act h.sound action
  rw [History.act]
  cases hgives : history.board.gives? action with
  | none =>
    rw [hgives] at hdoes
    exact h.of_none hdoes
  | some asked =>
    rw [hgives] at hdoes
    cases hdoes with
    | give hgiven => exact h.of_given hgiven

theorem run (actions : List Action) : (Board.run actions).Consistent := by
  induction actions using List.reverseRecOn with
  | nil => exact .start
  | append_singleton actions action ih =>
    rw [run_concat]
    exact ih.act action

/-! ## Links that stay known, and links that are forgotten -/

/-- A link that stays known keeps its number. -/
theorem number?_act (h : history.Consistent) (hnumber : history.board.number? url = some number)
    (hfind : ((history.act action).board.find? url).isSome) :
    (history.act action).board.number? url = some number := by
  obtain ⟨id, hknown, hseq⟩ := Option.bind_eq_some_iff.mp hnumber
  show (history.board.act action).number? url = some number
  rcases find?_act h.sound action url with ⟨link, given, -, -, hgiven, hnext⟩ | hsame | hnone
  · rw [number?, hgiven, Option.bind_some, hnext, hnumber, Option.getD_some]
  · rw [number?, hsame, hknown, Option.bind_some, (does_act h.sound action).extends.seq? hseq]
  · change ((history.board.act action).find? url).isSome at hfind
    rw [hnone] at hfind
    cases hfind

theorem number?_run {actions more : List Action}
    (hnumber : (Board.run actions).board.number? url = some number)
    (hknown : ∀ front, front <+: more → ((Board.run (actions ++ front)).board.find? url).isSome) :
    (Board.run (actions ++ more)).board.number? url = some number := by
  induction more using List.reverseRecOn with
  | nil => rwa [List.append_nil]
  | append_singleton more action ih =>
    have hbefore := ih fun front hfront => hknown front (hfront.trans (List.prefix_append ..))
    have hnow := hknown (more ++ [action]) (List.prefix_refl _)
    rw [← List.append_assoc, run_concat] at hnow ⊢
    exact (Consistent.run _).number?_act hbefore hnow

end Consistent

end History

/-- A link that is not known stays so until a group is asked for it. -/
theorem find?_act_eq_none (h : board.Sound) (hnone : board.find? url = none) {action : Action}
    (hasked : ∀ link, action = .groupFor link → (board.act action).urls[link]? ≠ some url) :
    (board.act action).find? url = none := by
  rcases find?_act h action url with ⟨link, _, haction, hurl, -⟩ | hsame | hforgotten
  · exact absurd hurl (hasked link haction)
  · exact hsame.trans hnone
  · exact hforgotten

theorem find?_run_eq_none {actions more : List Action}
    (hnone : (run actions).board.find? url = none)
    (hasked : ∀ link, .groupFor link ∈ more →
      (run (actions ++ more)).board.urls[link]? ≠ some url) :
    (run (actions ++ more)).board.find? url = none := by
  induction more using List.reverseRecOn with
  | nil => rwa [List.append_nil]
  | append_singleton more action ih =>
    have hsound := sound_run (actions ++ more)
    rw [← List.append_assoc, run_concat] at hasked ⊢
    refine find?_act_eq_none hsound (ih fun link hlink hurl => ?_) fun link haction => ?_
    · -- Clusters keep their links, so what is of another link in the end was so before.
      exact hasked link (by simp [hlink]) ((does_act hsound action).extends.urls hurl)
    · exact hasked link (by simp [haction])

/-- Numbers identify links, whatever is done with a board and its groups. The groups given
are those of the clusters that were asked for; their numbers are the first ones, in the order
in which each was given first; groups of one number are of one link. As long as a link stays
known every group given for it has the number that it is known by, for whichever cluster it
is asked. When a link that was forgotten is asked for again, its group has a greater number
than all before. A link is known by one group only, the one for the cluster for which a group
of this link was asked last. -/
theorem run_identifies (actions : List Action) :
    (∀ asked ∈ (run actions).given, ∃ group,
      (run actions).board.groups[asked.2]? = some group ∧ group.link = asked.1) ∧
    (run actions).numbers.eraseDups = List.range' 1 (run actions).board.issued ∧
    (∀ a ∈ (run actions).given, ∀ b ∈ (run actions).given,
      (run actions).board.seq? a.2 = (run actions).board.seq? b.2 →
      (run actions).board.urls[a.1]? = (run actions).board.urls[b.1]?) ∧
    (∀ more url number, (run actions).board.number? url = some number →
      (∀ front, front <+: more → ((run (actions ++ front)).board.find? url).isSome) →
      ∀ link, (run (actions ++ more)).board.urls[link]? = some url →
        (run (actions ++ more)).board.numberFor? link = some number) ∧
    (∀ urls more url, url ∉ urls →
      (∀ link, .groupFor link ∈ more →
        (run (actions ++ .retain urls :: more)).board.urls[link]? ≠ some url) →
      ∀ link, (run (actions ++ .retain urls :: more)).board.urls[link]? = some url →
        ∃ number, (run (actions ++ .retain urls :: more)).board.numberFor? link = some number ∧
          ∀ before ∈ (run (actions ++ .retain urls :: more)).numbers, before < number) ∧
    ((run actions).board.known.map Prod.fst).Nodup ∧
    ∀ url id, (run actions).board.find? url = some id → ∃ link group,
      (run actions).GaveLast url (link, id) ∧
        (run actions).board.groups[id]? = some group ∧ group.link = link := by
  have h := History.Consistent.run actions
  refine ⟨h.made, h.numbers, h.url_eq, ?_, ?_, h.nodup, ?_⟩
  · intro more url number hnumber hknown link hurl
    have hkept := History.Consistent.number?_run hnumber hknown
    rw [(sound_run (actions ++ more)).numberFor? hurl, hkept, Option.getD_some]
  · intro urls more url hdropped hasked link hurl
    have hforgotten : (run (actions ++ [.retain urls])).board.find? url = none := by
      rw [run_concat]
      exact (find?_retain (run actions).board urls url).trans (if_neg hdropped)
    have hsplit : actions ++ .retain urls :: more = actions ++ [.retain urls] ++ more := by simp
    rw [hsplit] at hasked hurl ⊢
    have hlater := History.Consistent.run (actions ++ [.retain urls] ++ more)
    refine ⟨_, hlater.sound.numberFor? hurl, fun before hbefore => ?_⟩
    rw [number?, find?_run_eq_none hforgotten hasked]
    exact Nat.lt_succ_of_le (hlater.le_issued hbefore)
  · intro url id hfind
    obtain ⟨link, hlast⟩ := h.last url id hfind
    obtain ⟨group, hgroup, hlink⟩ := h.made (link, id) hlast.mem
    exact ⟨link, group, hlast, hgroup, hlink⟩

/-- The second cluster of a link takes the number over, and so does the first when it is asked
for again. Forgotten in between, the link gets a new one. -/
example :
    (run [.addLink (.new "http://x.test/a"), .addLink (.new "http://x.test/b"),
      .addLink (.new "http://x.test/a"), .groupFor 0, .groupFor 1, .groupFor 2, .groupFor 0,
      .retain ["http://x.test/b"], .groupFor 2]).numbers = [1, 2, 1, 1, 3] := by
  decide

end LinkDigest.Board
