import Switchboard.Uuid

namespace Switchboard

namespace Uuid

/-! The written form of an identifier is read back. -/

theorem hexDigit?_hexChar (digit : Fin 16) : hexDigit? (hexChar digit) = some digit := by
  revert digit
  decide

/-- No digit opens one of the enclosures that an identifier may stand in. -/
theorem toLower_hexChar (digit : Fin 16) : hexChar digit ≠ '\x7b' ∧ (hexChar digit).toLower ≠ 'u' := by
  revert digit
  decide

variable {size next : Nat} {sizes : List Nat} {chars : List Char}

theorem hyphenate_cons :
    hyphenate (size :: next :: sizes) chars = chars.take size ++ '-' :: hyphenate (next :: sizes) (chars.drop size) :=
  rfl

theorem joinGroups_cons {rest : List Char} (hyphen : chars.drop size = '-' :: rest) :
    joinGroups (size :: next :: sizes) chars = (joinGroups (next :: sizes) rest).map (chars.take size ++ ·) := by
  rw [joinGroups, hyphen]
  · rfl
  · exact List.cons_ne_nil next sizes

theorem length_hyphenate (enough : sizes.foldr (· + ·) 0 = chars.length) :
    (hyphenate sizes chars).length = chars.length + (sizes.length - 1) := by
  induction sizes generalizing chars with
  | nil => rfl
  | cons size rest ih =>
      cases rest with
      | nil => rfl
      | cons next more =>
          rw [List.foldr_cons] at enough
          have later : (hyphenate (next :: more) (chars.drop size)).length =
              (chars.drop size).length + ((next :: more).length - 1) := by
            refine ih ?_
            rw [List.length_drop]
            omega
          rw [hyphenate_cons, List.length_append, List.length_cons, later, List.length_take, List.length_drop,
            List.length_cons]
          simp only [List.length_cons]
          omega

/-- The hyphens between groups can be taken out again. -/
theorem joinGroups_hyphenate (groups : sizes ≠ [])
    (enough : sizes.foldr (· + ·) 0 = chars.length) : joinGroups sizes (hyphenate sizes chars) = some chars := by
  induction sizes generalizing chars with
  | nil => exact absurd rfl groups
  | cons size rest ih =>
      cases rest with
      | nil =>
          rw [List.foldr_cons, List.foldr_nil, Nat.add_zero] at enough
          simp only [hyphenate, joinGroups, enough, if_true]
      | cons next more =>
          rw [List.foldr_cons] at enough
          have first : (chars.take size).length = size := by
            rw [List.length_take]
            omega
          have later : joinGroups (next :: more) (hyphenate (next :: more) (chars.drop size)) =
              some (chars.drop size) := by
            refine ih (List.cons_ne_nil _ _) ?_
            rw [List.length_drop]
            omega
          rw [hyphenate_cons, joinGroups_cons (List.drop_left' first), later, List.take_left' first,
            Option.map_some, List.take_append_drop]

theorem ofDigits?_hexChars (u : Uuid) : ofDigits? (u.digits.toList.map hexChar) = some u := by
  have read (digits : List (Fin 16)) : (digits.map hexChar).mapM hexDigit? = some digits := by
    induction digits with
    | nil => rfl
    | cons digit rest ih =>
        rw [List.map_cons, List.mapM_cons, hexDigit?_hexChar, ih]
        rfl
  have size : u.digits.toList.length = 32 := u.digits.length_toList
  rw [ofDigits?, read]
  simp only [Option.bind_eq_bind, Option.bind_some, size, dif_pos]
  rfl

/-- A text that starts with a digit stands in no enclosure. -/
theorem unwrap_hexChar (digit : Fin 16) (rest : List Char) :
    unwrap (hexChar digit :: rest) = (0, hexChar digit :: rest) := by
  obtain ⟨noBrace, noPrefix⟩ := toLower_hexChar digit
  have unprefixed : ((hexChar digit :: rest).take 9).map Char.toLower ≠ "urn:uuid:".toList := fun same =>
    noPrefix (List.cons.inj same).1
  rw [unwrap, if_neg fun enclosed => noBrace (Option.some.inj enclosed.1), if_neg unprefixed]

@[simp] theorem ofText?_text (u : Uuid) : ofText? u.text = some u := by
  have size : (u.digits.toList.map hexChar).length = 32 := by
    rw [List.length_map, u.digits.length_toList]
  have enough : groups.foldr (· + ·) 0 = (u.digits.toList.map hexChar).length := size.symm
  have joined := joinGroups_hyphenate (List.cons_ne_nil 8 [4, 4, 4, 12]) enough
  have length : (hyphenate groups (u.digits.toList.map hexChar)).length = 36 := by
    rw [length_hyphenate enough, size]
    rfl
  have plain : unwrap (hyphenate groups (u.digits.toList.map hexChar)) =
      (0, hyphenate groups (u.digits.toList.map hexChar)) := by
    cases digits : u.digits.toList with
    | nil => simp [digits] at size
    | cons digit rest => exact unwrap_hexChar digit _
  rw [ofText?, text, String.toList_ofList, length, if_neg (by decide), plain, groups, joined]
  exact ofDigits?_hexChars u

end Uuid

@[simp] theorem Decoder.decode_uuid (u : Uuid) : (Json.string u.text).decode uuid = .ok u := by
  simp only [Json.decode, uuid, Source.view, Uuid.ofText?_text]

end Switchboard
