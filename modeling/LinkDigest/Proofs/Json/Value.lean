import LinkDigest.Proofs.Json.Layout

/-!
# Values in a text

A value is written in tokens; of the tokens the reader makes the value again, whatever is open
around it. So every text that lays out the tokens of a value is read as the value, and what is
written for a value is one of these texts.
-/

namespace LinkDigest.Json

/-- What holds of the simple values, and of arrays and objects once it holds of what they
hold, holds of every value. -/
@[elab_as_elim]
theorem inductionOn {motive : Json → Prop} (v : Json) (null : motive .null)
    (bool : ∀ value, motive (.bool value)) (number : ∀ literal, motive (.number literal))
    (string : ∀ raw, motive (.string raw))
    (array : ∀ items, (∀ item ∈ items, motive item) → motive (.array items))
    (object : ∀ members, (∀ member ∈ members, motive member.2) → motive (.object members)) :
    motive v := by
  match v with
  | .null => exact null
  | .bool value => exact bool value
  | .number literal => exact number literal
  | .string raw => exact string raw
  | .array items =>
    exact array items fun item _ => inductionOn item null bool number string array object
  | .object members =>
    exact object members fun member hmember =>
      inductionOn member.2 null bool number string array object
termination_by v
decreasing_by
  · decreasing_tactic
  · -- A member is a pair, and its value is smaller than the pair.
    have hmember := List.sizeOf_lt_of_mem hmember
    have hvalue : sizeOf member = 1 + sizeOf member.1 + sizeOf member.2 := rfl
    simp only [Json.object.sizeOf_spec]
    omega

/-! ## The tokens of a value -/

/-- The tokens of values with commas between them. -/
def withCommas : List (List Token) → List Token
  | [] => []
  | first :: rest => first ++ rest.flatMap (Token.comma :: ·)

mutual

/-- The tokens that write a value. -/
def tokens : Json → List Token
  | .null => [.null]
  | .bool value => [.bool value]
  | .number literal => [.number literal]
  | .string raw => [.string raw]
  | .array items => .openArray :: (withCommas (itemTokens items) ++ [.closeArray])
  | .object members => .openObject :: (withCommas (memberTokens members) ++ [.closeObject])

/-- The tokens of each item of an array. -/
def itemTokens : List Json → List (List Token)
  | [] => []
  | item :: rest => tokens item :: itemTokens rest

/-- The tokens of each member of an object. -/
def memberTokens : List (List Char × Json) → List (List Token)
  | [] => []
  | (key, value) :: rest => (.string key :: .colon :: tokens value) :: memberTokens rest

end

/-! ## Reading the tokens -/

namespace Parser

/-- A first item is read like any other. -/
theorem run_itemOrEnd (stack : List Frame) (v : Json) (rest : List Token) :
    (Parser.itemOrEnd stack).run (v.tokens ++ rest) =
      (Parser.value (.array [] :: stack)).run (v.tokens ++ rest) := by
  cases v <;> rfl

theorem run_openArray (stack : List Frame) (v : Json) (rest : List (List Token)) :
    (Parser.value stack).run (.openArray :: (withCommas (v.tokens :: rest) ++ [.closeArray])) =
      (Parser.value (.array [] :: stack)).run
        (v.tokens ++ (rest.flatMap (Token.comma :: ·) ++ [.closeArray])) := by
  rw [withCommas, List.append_assoc, ← run_itemOrEnd]
  rfl

theorem run_openObject (stack : List Frame) (name : List Char) (v : Json)
    (rest : List (List Token)) :
    (Parser.value stack).run (.openObject ::
        (withCommas ((.string name :: .colon :: v.tokens) :: rest) ++ [.closeObject])) =
      (Parser.value (.object [] name :: stack)).run
        (v.tokens ++ (rest.flatMap (Token.comma :: ·) ++ [.closeObject])) := by
  rw [withCommas, List.append_assoc]
  rfl

/-- Whether a value is read from its tokens, whatever is open around it. -/
def Reads (v : Json) : Prop :=
  ∀ stack, (Parser.value stack).run v.tokens = some (.after v stack)

/-- Behind an item the others are read up to the end of the array. -/
theorem run_items {items : List Json} (h : ∀ item ∈ items, Reads item) (item : Json)
    (done : List Json) (stack : List Frame) :
    (Parser.after item (.array done :: stack)).run
        ((itemTokens items).flatMap (Token.comma :: ·) ++ [.closeArray]) =
      some (.after (.array ((item :: done).reverse ++ items)) stack) := by
  induction items generalizing item done with
  | nil => simp [itemTokens, run, step]
  | cons next items ih =>
    obtain ⟨hnext, hrest⟩ := List.forall_mem_cons.mp h
    rw [itemTokens, List.flatMap_cons, List.append_assoc, List.cons_append, run]
    simp only [step]
    rw [run_append, hnext, Option.bind_some, ih hrest]
    simp

/-- Behind a member the others are read up to the end of the object. -/
theorem run_members {members : List (List Char × Json)} (h : ∀ member ∈ members, Reads member.2)
    (v : Json) (name : List Char) (done : List (List Char × Json)) (stack : List Frame) :
    (Parser.after v (.object done name :: stack)).run
        ((memberTokens members).flatMap (Token.comma :: ·) ++ [.closeObject]) =
      some (.after (.object (((name, v) :: done).reverse ++ members)) stack) := by
  induction members generalizing v name done with
  | nil => simp [memberTokens, run, step]
  | cons next members ih =>
    obtain ⟨hnext, hrest⟩ := List.forall_mem_cons.mp h
    rw [memberTokens, List.flatMap_cons, List.append_assoc, List.cons_append, run]
    simp only [step, List.cons_append, run]
    rw [run_append, hnext, Option.bind_some, ih hrest]
    simp

/-- A value is read from its tokens. -/
theorem run_tokens (v : Json) : Reads v := by
  induction v using inductionOn with
  | null | bool | number | string => exact fun _ => rfl
  | array items h =>
    intro stack
    cases items with
    | nil => rfl
    | cons item items =>
      obtain ⟨hitem, hrest⟩ := List.forall_mem_cons.mp h
      rw [tokens, itemTokens, run_openArray, run_append, hitem, Option.bind_some,
        run_items hrest]
      rfl
  | object members h =>
    intro stack
    cases members with
    | nil => rfl
    | cons member members =>
      obtain ⟨hmember, hrest⟩ := List.forall_mem_cons.mp h
      rw [tokens, memberTokens, run_openObject, run_append, hmember, Option.bind_some,
        run_members hrest]
      rfl

end Parser

/-- The tokens of a value are read as the value. -/
theorem ofTokens?_tokens (v : Json) : ofTokens? v.tokens = some v := by
  rw [ofTokens?, Parser.run_tokens, Option.bind_some, Parser.result?]

/-! ## Reading a text -/

namespace Parser

/-- A token without a sign that ends it is a whole value. -/
theorem exists_after_of_step {p q : Parser} {token : Token} (h : p.step token = some q)
    (hopen : token.isOpenEnded) : ∃ v stack, q = .after v stack := by
  cases p with
  | value stack | itemOrEnd stack =>
    cases token with
    | null | bool | number => exact ⟨_, _, (Option.some.inj h).symm⟩
    | _ => cases hopen
  | keyOrEnd | key | colon | after =>
    cases token with
    | null | bool | number => simp [step] at h
    | _ => cases hopen

/-- Behind a value comes a sign. -/
theorem isOpenEnded_of_step_after {v : Json} {stack : List Frame} {q : Parser} {token : Token}
    (h : (Parser.after v stack).step token = some q) : token.isOpenEnded = false := by
  cases token with
  | null | bool | number => simp [step] at h
  | _ => rfl

/-- In tokens that are read no two run together. -/
theorem separated_of_run {p q : Parser} {tokens : List Token} (h : p.run tokens = some q) :
    Token.Separated tokens := by
  induction tokens generalizing p with
  | nil => exact .nil
  | cons token tokens ih =>
    rw [run] at h
    split at h
    · cases h
    · rename_i p' hstep
      refine List.isChain_cons.mpr ⟨fun next hnext hopen => ?_, ih h⟩
      -- behind such a token the reader has a value, and takes a sign only
      obtain ⟨v, stack, rfl⟩ := exists_after_of_step hstep hopen
      cases tokens with
      | nil => cases hnext
      | cons first tokens =>
        obtain rfl : first = next := Option.some.inj hnext
        rw [run] at h
        split at h
        · cases h
        · exact isOpenEnded_of_step_after ‹_›

end Parser

/-- A text that lays out the tokens of a value is read as the value. -/
theorem parse?_of_isLayout {v : Json} {text : List Char} (h : Token.IsLayout v.tokens text) :
    parse? text = some v := by
  have hsep := Parser.separated_of_run (Parser.run_tokens v [])
  rw [parse?, Token.read?_of_isLayout h hsep, Option.bind_some, ofTokens?_tokens]

/-! ## Writing -/

theorem commaSeparated_map_flatMap (written : List (List Token)) :
    commaSeparated (written.map (·.flatMap Token.text)) =
      (withCommas written).flatMap Token.text := by
  cases written with
  | nil => rfl
  | cons first rest =>
    rw [withCommas, List.flatMap_append]
    induction rest generalizing first with
    | nil => simp [commaSeparated]
    | cons next rest ih =>
      have hfirst : commaSeparated ((first :: next :: rest).map (·.flatMap Token.text)) =
          first.flatMap Token.text ++
            ',' :: commaSeparated ((next :: rest).map (·.flatMap Token.text)) := rfl
      rw [hfirst, ih]
      simp [Token.text]

/-- Items are written one by one as their tokens are. -/
theorem renderItems_eq {items : List Json}
    (h : ∀ item ∈ items, item.render = item.tokens.flatMap Token.text) :
    renderItems items = (itemTokens items).map (·.flatMap Token.text) := by
  induction items with
  | nil => rfl
  | cons item items ih =>
    obtain ⟨hitem, hrest⟩ := List.forall_mem_cons.mp h
    rw [renderItems, itemTokens, List.map_cons, hitem, ih hrest]

/-- Members are written one by one as their names and tokens are. -/
theorem renderMembers_eq {members : List (List Char × Json)}
    (h : ∀ member ∈ members, member.2.render = member.2.tokens.flatMap Token.text) :
    renderMembers members = (memberTokens members).map (·.flatMap Token.text) := by
  induction members with
  | nil => rfl
  | cons member members ih =>
    obtain ⟨hmember, hrest⟩ := List.forall_mem_cons.mp h
    rw [renderMembers, memberTokens, List.map_cons, hmember, ih hrest]
    simp [Token.text]

theorem render_eq (v : Json) : v.render = v.tokens.flatMap Token.text := by
  induction v using inductionOn with
  | null => rfl
  | bool value => cases value <;> rfl
  | number => simp [render, tokens, Token.text]
  | string => simp [render, tokens, Token.text]
  | array items h =>
    simp [render, tokens, Token.text, renderItems_eq h, commaSeparated_map_flatMap]
  | object members h =>
    simp [render, tokens, Token.text, renderMembers_eq h, commaSeparated_map_flatMap]

/-- Values whose tokens have their form: they can be written. -/
def IsFormed (v : Json) : Prop := ∀ token ∈ v.tokens, token.IsFormed

/-- What is written for a value lays out its tokens. -/
theorem isLayout_render {v : Json} (h : v.IsFormed) : Token.IsLayout v.tokens v.render := by
  rw [render_eq]
  exact Token.isLayout_flatMap (fun _ => List.forall_mem_nil _) h

theorem isFormed_ofInt (n : Int) : (ofInt n).IsFormed := by
  intro token htoken
  obtain rfl := List.mem_singleton.mp htoken
  exact ⟨_, Number.isLiteral_toString n⟩

theorem isFormed_string {raw : List Char} (h : IsRaw raw) : (Json.string raw).IsFormed := by
  intro token htoken
  obtain rfl := List.mem_singleton.mp htoken
  exact h

theorem isFormed_ofText (text : String) : (ofText text).IsFormed :=
  isFormed_string (spells_escape _).isRaw

theorem isFormed_bool (value : Bool) : (Json.bool value).IsFormed := by
  intro token htoken
  obtain rfl := List.mem_singleton.mp htoken
  trivial

theorem mem_withCommas {written : List (List Token)} {token : Token}
    (h : token ∈ withCommas written) : token = .comma ∨ ∃ one ∈ written, token ∈ one := by
  cases written with
  | nil => cases h
  | cons first rest =>
    rw [withCommas, List.mem_append, List.mem_flatMap] at h
    rcases h with hfirst | ⟨one, hone, htoken⟩
    · exact .inr ⟨first, List.mem_cons_self, hfirst⟩
    · exact (List.mem_cons.mp htoken).imp_right fun hmem =>
        ⟨one, List.mem_cons_of_mem _ hone, hmem⟩

theorem memberTokens_eq_map (members : List (List Char × Json)) :
    memberTokens members =
      members.map fun member => .string member.1 :: .colon :: member.2.tokens := by
  induction members with
  | nil => rfl
  | cons member members ih => rw [memberTokens, ih, List.map_cons]

theorem isFormed_object {members : List (List Char × Json)}
    (h : ∀ member ∈ members, IsRaw member.1 ∧ member.2.IsFormed) :
    (Json.object members).IsFormed := by
  intro token htoken
  rcases List.mem_cons.mp htoken with rfl | htoken
  · trivial
  rcases List.mem_append.mp htoken with hmem | hmem
  · rcases mem_withCommas hmem with rfl | ⟨one, hone, hmem⟩
    · trivial
    · rw [memberTokens_eq_map] at hone
      obtain ⟨member, hmember, rfl⟩ := List.mem_map.mp hone
      obtain ⟨hname, hheld⟩ := h member hmember
      rcases List.mem_cons.mp hmem with rfl | hmem
      · exact hname
      rcases List.mem_cons.mp hmem with rfl | hmem
      · trivial
      · exact hheld token hmem
  · obtain rfl := List.mem_singleton.mp hmem
    trivial

theorem isFormed_ofMembers {members : List (String × Json)}
    (h : ∀ member ∈ members, member.2.IsFormed) : (ofMembers members).IsFormed := by
  refine isFormed_object ?_
  simp only [List.forall_mem_map]
  exact fun member hmember => ⟨(spells_escape _).isRaw, h member hmember⟩

end LinkDigest.Json
