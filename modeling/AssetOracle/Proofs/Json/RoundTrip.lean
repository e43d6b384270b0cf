import AssetOracle.Json.Decode
import AssetOracle.Proofs.Json.Scalar
import AssetOracle.Proofs.Keyed

/-!
# Values that are read back

The compact text of a value is read as the value (`ofText_compact`), if its numbers are natural
numbers of sixty-four bits and it is not nested too deeply (`Portable`). The reader's fuel is never
in the way: three steps for each byte are enough (`Reader.ReadsBack`).
-/

namespace AssetOracle.Json

open Text.Utf8

/-- Whether a value is nested at most `depth` times, all its numbers are natural numbers of
    sixty-four bits, and its objects are ordered tables. -/
inductive Portable : Nat → Json → Prop where
  | null {depth : Nat} : Portable depth .null
  | bool {depth : Nat} (b : Bool) : Portable depth (.bool b)
  | nat {depth n : Nat} (h : n ≤ maxWord) : Portable depth (.nat n)
  | text {depth : Nat} (s : String) : Portable depth (.text s)
  | array {depth : Nat} {items : List Json} (h : ∀ item ∈ items, Portable depth item) :
    Portable (depth + 1) (.array items)
  | object {depth : Nat} {members : List (String × Json)} (hkeys : Keyed.Ascending members)
    (h : ∀ member ∈ members, Portable depth member.2) : Portable (depth + 1) (.object members)

theorem Portable.ofMembers {depth : Nat} {members : List (String × Json)}
    (h : ∀ member ∈ members, Portable depth member.2) : Portable (depth + 1) (.ofMembers members) :=
  .object (Keyed.ascending_ofList members) fun member hmember =>
    h member (Keyed.mem_of_mem_ofList hmember)

/-! ## The bytes of a value -/

/-- The bytes between the brackets of an array. -/
def itemBytes (items : List Json) : List UInt8 := encode (",".intercalate (compactItems items))

/-- The bytes between the braces of an object. -/
def memberBytes (members : List (String × Json)) : List UInt8 :=
  encode (",".intercalate (compactMembers members))

theorem encode_null : encode Json.null.compact = [0x6E, 0x75, 0x6C, 0x6C] := by
  rw [compact, encode_eq_flatMap]
  decide

theorem encode_true : encode (Json.bool true).compact = [0x74, 0x72, 0x75, 0x65] := by
  rw [compact, encode_eq_flatMap]
  decide

theorem encode_false : encode (Json.bool false).compact = [0x66, 0x61, 0x6C, 0x73, 0x65] := by
  rw [compact, encode_eq_flatMap]
  decide

theorem encode_nat (n : Nat) : encode (Json.nat n).compact = encode n.repr := by
  rfl

theorem encode_array (items : List Json) :
    encode (Json.array items).compact = 0x5B :: (itemBytes items ++ [0x5D]) := by
  have hopen : encode "[" = [0x5B] := by rw [encode_eq_flatMap]; decide
  have hclose : encode "]" = [0x5D] := by rw [encode_eq_flatMap]; decide
  rw [compact, encode_append, encode_append, hopen, hclose]
  rfl

theorem encode_object (members : List (String × Json)) :
    encode (Json.object members).compact = 0x7B :: (memberBytes members ++ [0x7D]) := by
  have hopen : encode "\x7b" = [0x7B] := by rw [encode_eq_flatMap]; decide
  have hclose : encode "\x7d" = [0x7D] := by rw [encode_eq_flatMap]; decide
  rw [compact, encode_append, encode_append, hopen, hclose]
  rfl

theorem encode_comma : encode "," = [0x2C] := by
  rw [encode_eq_flatMap]
  decide

theorem itemBytes_nil : itemBytes [] = [] := by
  rw [itemBytes, compactItems, String.intercalate_nil, encode_eq_flatMap]
  rfl

theorem memberBytes_nil : memberBytes [] = [] := by
  rw [memberBytes, compactMembers, String.intercalate_nil, encode_eq_flatMap]
  rfl

theorem itemBytes_singleton (item : Json) : itemBytes [item] = encode item.compact := by
  rw [itemBytes, compactItems, compactItems, String.intercalate_singleton]

theorem itemBytes_cons_cons (item next : Json) (more : List Json) :
    itemBytes (item :: next :: more) = encode item.compact ++ 0x2C :: itemBytes (next :: more) := by
  rw [itemBytes, compactItems, compactItems, String.intercalate_cons_cons, encode_append,
    encode_append, encode_comma, List.append_assoc]
  rfl

theorem memberBytes_singleton (name : String) (item : Json) :
    memberBytes [(name, item)] =
      0x22 :: (Reader.textBytes name ++ 0x3A :: encode item.compact) := by
  have hcolon : encode ":" = [0x3A] := by rw [encode_eq_flatMap]; decide
  rw [memberBytes, compactMembers, compactMembers, String.intercalate_singleton, encode_append,
    encode_append, Reader.encode_stringText, hcolon, List.append_assoc]
  rfl

theorem memberBytes_cons_cons (member next : String × Json) (more : List (String × Json)) :
    memberBytes (member :: next :: more) =
      memberBytes [member] ++ 0x2C :: memberBytes (next :: more) := by
  rw [memberBytes, compactMembers, compactMembers, String.intercalate_cons_cons, encode_append,
    encode_append, encode_comma, List.append_assoc]
  rfl

namespace Reader

variable {depth fuel : Nat} {rest : List UInt8} {item : Json} {items : List Json}
  {members : List (String × Json)}

/-- Bytes that begin with the end of an item or member, or no bytes. -/
def EndsItem (bytes : List UInt8) : Prop :=
  ∀ b ∈ bytes.head?, b = 0x2C ∨ b = 0x5D ∨ b = 0x7D

theorem endsNumber_of_endsItem (h : EndsItem rest) : EndsNumber rest := by
  intro b hb
  rcases h b hb with rfl | rfl | rfl <;> decide

theorem endsItem_cons {b : UInt8} (h : b = 0x2C ∨ b = 0x5D ∨ b = 0x7D) : EndsItem (b :: rest) := by
  intro b' hb
  rwa [← Option.some.inj hb]

/-- Whether the compact text of a value is read as the value where it is nested in others. -/
def ReadsBack (depth : Nat) (j : Json) : Prop :=
  ∀ fuel rest, 3 * (encode j.compact).length ≤ fuel → EndsItem rest →
    value fuel depth (encode j.compact ++ rest) = (j.toDocument, .ok rest)

theorem isSpace_of_isDigit {b : UInt8} (h : isDigit b = true) : isSpace b = false := by
  rw [← Bool.not_eq_true]
  intro hspace
  simp only [isSpace, Bool.or_eq_true, decide_eq_true_eq] at hspace
  rcases hspace with ((rfl | rfl) | rfl) | rfl <;> exact absurd h (by decide)

theorem skipSpace_cons {b : UInt8} (h : isSpace b = false) : skipSpace (b :: rest) = b :: rest :=
  List.dropWhile_cons_of_neg (by simp [h])

/-- The compact text of a value begins with no space and closes nothing. -/
theorem exists_encode_compact (h : Portable depth item) :
    ∃ b more, encode item.compact = b :: more ∧ isSpace b = false ∧ b ≠ 0x5D := by
  cases h with
  | null => exact ⟨_, _, encode_null, by decide, by decide⟩
  | bool b =>
    cases b with
    | false => exact ⟨_, _, encode_false, by decide, by decide⟩
    | true => exact ⟨_, _, encode_true, by decide, by decide⟩
  | nat hn =>
    obtain ⟨b, more, hbytes, hb⟩ := exists_encode_repr _
    refine ⟨b, more, (encode_nat _).trans hbytes, isSpace_of_isDigit hb, ?_⟩
    rintro rfl
    exact absurd hb (by decide)
  | text s => exact ⟨_, _, encode_stringText s, by decide, by decide⟩
  | array h => exact ⟨_, _, encode_array _, by decide, by decide⟩
  | object _ h => exact ⟨_, _, encode_object _, by decide, by decide⟩

theorem exists_fuel (hitem : Portable depth item) (h : 3 * (encode item.compact).length ≤ fuel) :
    ∃ less, fuel = less + 1 := by
  obtain ⟨b, more, hbytes, -⟩ := exists_encode_compact hitem
  rw [hbytes, List.length_cons] at h
  exact Nat.exists_eq_add_one_of_ne_zero (by omega)

theorem readsBack_null : ReadsBack depth .null := by
  intro fuel rest hfuel _
  obtain ⟨fuel, rfl⟩ := exists_fuel (@Portable.null depth) hfuel
  rw [encode_null, List.cons_append, value, skipSpace_cons (by decide), toDocument]
  rfl

theorem readsBack_bool (b : Bool) : ReadsBack depth (.bool b) := by
  intro fuel rest hfuel _
  obtain ⟨fuel, rfl⟩ := exists_fuel (@Portable.bool depth b) hfuel
  cases b with
  | false =>
    rw [encode_false, List.cons_append, value, skipSpace_cons (by decide), toDocument]
    rfl
  | true =>
    rw [encode_true, List.cons_append, value, skipSpace_cons (by decide), toDocument]
    rfl

theorem readsBack_text (s : String) : ReadsBack depth (.text s) := by
  intro fuel rest hfuel _
  obtain ⟨fuel, rfl⟩ := exists_fuel (@Portable.text depth s) hfuel
  have hbytes : encode (Json.text s).compact = 0x22 :: textBytes s := encode_stringText s
  rw [hbytes, List.cons_append, value, skipSpace_cons (by decide)]
  simp only [text_textBytes, toDocument]

theorem value_cons_of_isDigit {b : UInt8} (h : isDigit b = true) :
    value (fuel + 1) depth (b :: rest) = number (b :: rest) := by
  rw [value, skipSpace_cons (isSpace_of_isDigit h)]
  split
  case h_1 heq => cases heq
  case h_8 heq =>
    obtain ⟨rfl, rfl⟩ := List.cons.inj heq
    rw [if_pos (by simp [h])]
  all_goals
    rename_i heq
    obtain ⟨rfl, -⟩ := List.cons.inj heq
    exact absurd h (by decide)

theorem readsBack_nat {n : Nat} (hn : n ≤ maxWord) : ReadsBack depth (.nat n) := by
  intro fuel rest hfuel hrest
  obtain ⟨fuel, rfl⟩ := exists_fuel (@Portable.nat depth n hn) hfuel
  have hnumber := number_repr hn (endsNumber_of_endsItem hrest)
  obtain ⟨b, more, hbytes, hb⟩ := exists_encode_repr n
  rw [encode_nat]
  rw [hbytes, List.cons_append] at hnumber ⊢
  rw [value_cons_of_isDigit hb, hnumber, nat, toDocument]

/-! ## Arrays -/

theorem items_itemBytes {before : List Document} (hne : items ≠ [])
    (h : ∀ item ∈ items, ReadsBack depth item)
    (hfuel : 3 * (itemBytes items).length + 1 ≤ fuel) :
    Reader.items fuel depth before (itemBytes items ++ 0x5D :: rest) =
      (.array (before.reverse ++ itemDocuments items) none, .ok rest) := by
  induction items generalizing fuel before with
  | nil => exact absurd rfl hne
  | cons item more ih =>
    obtain ⟨fuel, rfl⟩ := Nat.exists_eq_add_one_of_ne_zero (n := fuel) (by omega)
    obtain ⟨hitem, hmore⟩ := List.forall_mem_cons.1 h
    rw [Reader.items]
    cases more with
    | nil =>
      rw [itemBytes_singleton] at hfuel ⊢
      rw [hitem fuel _ (by omega) (endsItem_cons (.inr (.inl rfl)))]
      simp only [skipSpace_cons (b := 0x5D) (by decide), List.reverse_cons]
      rw [itemDocuments, itemDocuments]
    | cons next more =>
      rw [itemBytes_cons_cons, List.length_append, List.length_cons] at hfuel
      rw [itemBytes_cons_cons, List.append_assoc, List.cons_append,
        hitem fuel _ (by omega) (endsItem_cons (.inl rfl))]
      simp only [skipSpace_cons (b := 0x2C) (by decide)]
      rw [ih (List.cons_ne_nil _ _) hmore (by omega), List.reverse_cons, List.append_assoc,
        itemDocuments.eq_2 item]
      rfl

theorem exists_itemBytes (h : Portable depth item) (more : List Json) :
    ∃ b bytes, itemBytes (item :: more) = b :: bytes ∧ isSpace b = false ∧ b ≠ 0x5D := by
  obtain ⟨b, bytes, hbytes, hb⟩ := exists_encode_compact h
  cases more with
  | nil =>
    rw [itemBytes_singleton, hbytes]
    exact ⟨b, bytes, rfl, hb⟩
  | cons next more =>
    rw [itemBytes_cons_cons, hbytes, List.cons_append]
    exact ⟨b, _, rfl, hb⟩

theorem array_itemBytes (hitems : ∀ item ∈ items, Portable depth item)
    (h : ∀ item ∈ items, ReadsBack depth item)
    (hfuel : 3 * (itemBytes items).length + 2 ≤ fuel) :
    array fuel depth (itemBytes items ++ 0x5D :: rest) =
      (.array (itemDocuments items) none, .ok rest) := by
  obtain ⟨fuel, rfl⟩ := Nat.exists_eq_add_one_of_ne_zero (n := fuel) (by omega)
  cases items with
  | nil =>
    rw [itemBytes_nil, List.nil_append, array, skipSpace_cons (by decide), itemDocuments]
    rfl
  | cons item more =>
    have hread : Reader.items fuel depth [] (itemBytes (item :: more) ++ 0x5D :: rest) = _ :=
      items_itemBytes (List.cons_ne_nil item more) h (by omega)
    obtain ⟨b, bytes, hbytes, hspace, hclose⟩ :=
      exists_itemBytes (hitems item List.mem_cons_self) more
    rw [hbytes, List.cons_append] at hread ⊢
    rw [array, skipSpace_cons hspace]
    split
    case h_1 heq => cases heq
    case h_2 heq => exact absurd (List.cons.inj heq).1 hclose
    case h_3 => exact hread

theorem readsBack_array (hitems : ∀ item ∈ items, Portable depth item)
    (h : ∀ item ∈ items, ReadsBack depth item) : ReadsBack (depth + 1) (.array items) := by
  intro fuel rest hfuel hrest
  rw [encode_array, List.length_cons, List.length_append] at hfuel
  obtain ⟨fuel, rfl⟩ := Nat.exists_eq_add_one_of_ne_zero (n := fuel) (by omega)
  rw [encode_array, List.cons_append, List.append_assoc, value, skipSpace_cons (by decide)]
  have hread : array fuel depth (itemBytes items ++ 0x5D :: rest) = _ :=
    array_itemBytes hitems h (by omega)
  simp only [nested, Nat.add_sub_cancel, List.cons_append, List.nil_append, hread, toDocument,
    if_neg (Nat.succ_ne_zero depth)]

/-! ## Objects -/

theorem exists_memberBytes (member : String × Json) (more : List (String × Json)) :
    ∃ bytes, memberBytes (member :: more) = 0x22 :: bytes := by
  cases more with
  | nil => exact ⟨_, memberBytes_singleton _ _⟩
  | cons next more =>
    rw [memberBytes_cons_cons, memberBytes_singleton]
    exact ⟨_, rfl⟩

theorem members_memberBytes {before : List (Except Fault String × Document)} {bytes : List UInt8}
    {member : String × Json} {more : List (String × Json)}
    (hbytes : memberBytes (member :: more) = 0x22 :: bytes)
    (h : ∀ m ∈ member :: more, ReadsBack depth m.2) (hfuel : 3 * bytes.length + 1 ≤ fuel) :
    Reader.members fuel depth before (bytes ++ 0x7D :: rest) =
      (.object (before.reverse ++ memberDocuments (member :: more)) none, .ok rest) := by
  induction more generalizing member fuel before bytes with
  | nil =>
    obtain ⟨name, item⟩ := member
    obtain ⟨fuel, rfl⟩ := Nat.exists_eq_add_one_of_ne_zero (n := fuel) (by omega)
    have hitem : ReadsBack depth item := h _ List.mem_cons_self
    rw [memberBytes_singleton] at hbytes
    obtain rfl := (List.cons.inj hbytes).2
    rw [List.length_append, List.length_cons] at hfuel
    rw [List.append_assoc, List.cons_append, Reader.members, text_textBytes]
    simp only [skipSpace_cons (b := 0x3A) (by decide)]
    rw [hitem fuel _ (by omega) (endsItem_cons (.inr (.inr rfl)))]
    simp only [skipSpace_cons (b := 0x7D) (by decide), List.reverse_cons]
    rw [memberDocuments, memberDocuments]
  | cons next more ih =>
    obtain ⟨name, item⟩ := member
    obtain ⟨fuel, rfl⟩ := Nat.exists_eq_add_one_of_ne_zero (n := fuel) (by omega)
    obtain ⟨hitem, hmore⟩ := List.forall_mem_cons.1 h
    obtain ⟨after, hafter⟩ := exists_memberBytes next more
    rw [memberBytes_cons_cons, memberBytes_singleton, hafter, List.cons_append] at hbytes
    obtain rfl := (List.cons.inj hbytes).2
    simp only [List.length_append, List.length_cons] at hfuel
    rw [List.append_assoc, List.append_assoc, List.cons_append, Reader.members, text_textBytes]
    simp only [skipSpace_cons (b := 0x3A) (by decide), List.cons_append]
    rw [hitem fuel _ (by dsimp only; omega) (endsItem_cons (.inl rfl))]
    simp only [skipSpace_cons (b := 0x2C) (by decide), skipSpace_cons (b := 0x22) (by decide)]
    rw [ih hafter hmore (by omega), List.reverse_cons, List.append_assoc, memberDocuments.eq_2 name]
    rfl

theorem object_memberBytes (h : ∀ member ∈ members, ReadsBack depth member.2)
    (hfuel : 3 * (memberBytes members).length + 2 ≤ fuel) :
    object fuel depth (memberBytes members ++ 0x7D :: rest) =
      (.object (memberDocuments members) none, .ok rest) := by
  obtain ⟨fuel, rfl⟩ := Nat.exists_eq_add_one_of_ne_zero (n := fuel) (by omega)
  cases members with
  | nil =>
    rw [memberBytes_nil, List.nil_append, object, skipSpace_cons (by decide), memberDocuments]
    rfl
  | cons member more =>
    obtain ⟨bytes, hbytes⟩ := exists_memberBytes member more
    rw [hbytes, List.length_cons] at hfuel
    rw [hbytes, List.cons_append, object, skipSpace_cons (by decide)]
    exact members_memberBytes hbytes h (by omega)

theorem readsBack_object (h : ∀ member ∈ members, ReadsBack depth member.2) :
    ReadsBack (depth + 1) (.object members) := by
  intro fuel rest hfuel hrest
  rw [encode_object, List.length_cons, List.length_append] at hfuel
  obtain ⟨fuel, rfl⟩ := Nat.exists_eq_add_one_of_ne_zero (n := fuel) (by omega)
  rw [encode_object, List.cons_append, List.append_assoc, value, skipSpace_cons (by decide)]
  have hread : object fuel depth (memberBytes members ++ 0x7D :: rest) = _ :=
    object_memberBytes h (by omega)
  simp only [nested, Nat.add_sub_cancel, List.cons_append, List.nil_append, hread, toDocument,
    if_neg (Nat.succ_ne_zero depth)]

/-- The compact text of a value is read as the value. -/
theorem readsBack_of_portable (h : Portable depth item) : ReadsBack depth item := by
  induction h with
  | null => exact readsBack_null
  | bool b => exact readsBack_bool b
  | nat hn => exact readsBack_nat hn
  | text s => exact readsBack_text s
  | array h ih => exact readsBack_array h ih
  | object _ _ ih => exact readsBack_object ih

end Reader

/-- A value that is not nested too deeply, and whose numbers are natural numbers of sixty-four bits,
    is what its compact text is read as, and nothing follows it there. -/
theorem ofText_compact {j : Json} (h : Portable maxDepth j) :
    Source.ofText j.compact = ⟨j.toDocument, false⟩ := by
  have hread := Reader.readsBack_of_portable h (3 * (encode j.compact).length + 3) []
    (by omega) (by simp [Reader.EndsItem])
  rw [List.append_nil] at hread
  rw [Source.ofText, Source.ofBytes, hread]
  rfl

variable {α : Type}

theorem decode_ofText_compact {j : Json} (h : Portable maxDepth j) (decoder : Decoder α) :
    (Source.ofText j.compact).decode decoder = decoder .jsonText j.toDocument := by
  rw [ofText_compact h, Source.decode]
  exact bind_pure (decoder .jsonText j.toDocument)

/-! ## Keeping what is read -/

theorem keepList_itemDocuments {items : List Json}
    (h : ∀ item ∈ items, item.toDocument.keep = .ok item) :
    Document.keepList (itemDocuments items) none = .ok items := by
  induction items with
  | nil => rw [itemDocuments, Document.keepList]
  | cons item items ih =>
    obtain ⟨hitem, hitems⟩ := List.forall_mem_cons.1 h
    rw [itemDocuments, Document.keepList, hitem, ih hitems]
    rfl

theorem keepObject_memberDocuments {before members : List (String × Json)}
    (h : ∀ member ∈ members, member.2.toDocument.keep = .ok member.2)
    (hkeys : Keyed.Ascending (before ++ members)) :
    Document.keepObject before (memberDocuments members) none = .ok (before ++ members) := by
  induction members generalizing before with
  | nil => rw [memberDocuments, Document.keepObject, List.append_nil]
  | cons member members ih =>
    obtain ⟨name, item⟩ := member
    obtain ⟨hitem, hmembers⟩ := List.forall_mem_cons.1 h
    have hput : Keyed.put name item before = before ++ [(name, item)] :=
      Keyed.put_of_lt fun e he => (List.pairwise_append.1 hkeys).2.2 e he _ List.mem_cons_self
    rw [memberDocuments, Document.keepObject, hitem]
    refine (ih hmembers ?_).trans ?_
    · rw [hput, List.append_assoc]
      exact hkeys
    · rw [hput, List.append_assoc]
      rfl

/-- A document that was made of a value is kept as the value. -/
theorem keep_toDocument {depth : Nat} {j : Json} (h : Portable depth j) :
    j.toDocument.keep = .ok j := by
  induction h with
  | null => rw [toDocument, Document.keep]
  | bool b => rw [toDocument, Document.keep]
  | nat hn => rw [nat, toDocument, Document.keep]
  | text s => rw [toDocument, Document.keep]
  | array _ ih =>
    rw [toDocument, Document.keep, keepList_itemDocuments ih]
    rfl
  | object hkeys _ ih =>
    have hkeep : Document.keepObject [] _ none = _ := keepObject_memberDocuments ih hkeys
    rw [toDocument, Document.keep, hkeep]
    rfl

theorem any_toDocument {depth : Nat} {j : Json} (h : Portable depth j) (dialect : Dialect) :
    Decoder.any dialect j.toDocument = .ok j := by
  rw [Decoder.any, keep_toDocument h]
  rfl

end AssetOracle.Json
