import ExtensionProxy.Text.Width.Table

/-!
# Widths

How many columns of a terminal a text on one line takes.  A character has a width of its own:
ideographs and pictures take two columns, marks that join the character before them and characters
that are never drawn take none, almost all others take one.  The width of a text is the sum of
these, but for characters that are drawn as one:

* a picture asked for by a selector behind it takes two columns, and a text form one;
* pictures joined to each other, or followed by a skin tone, take the columns of one;
* some pairs of letters, as lam and alef, are drawn as one letter.

The width is found from the end of the text: what stands to the right of a character decides what
the character adds.
-/

set_option autoImplicit false

namespace ExtensionProxy

/-! ## Classes -/

/-- Whether a character takes no column. -/
def isEmptyChar (c : Char) : Bool := emptyRanges.any (·.holds c)

/-- Whether a character is a picture. -/
def isPicture (c : Char) : Bool := pictureRanges.any (·.holds c)

/-- Whether a selector may ask for a picture in place of a character. -/
def canBePicture (c : Char) : Bool :=
  c.isDigit || c == '#' || c == '*' || textPictureRanges.any (·.holds c) ||
    twoFormRanges.any (·.holds c)

/-- Whether a selector may ask for a text form that is narrower than the picture.  The signs of the
block of enclosed ideographs stay wide. -/
def canBeText (c : Char) : Bool :=
  twoFormRanges.any (·.holds c) && !CodeRange.holds (0x1f200, 0x1f2ff) c

/-- Whether a character is a skin tone. -/
def isTone (c : Char) : Bool := CodeRange.holds (0x1f3fb, 0x1f3ff) c

/-- Whether a character is half of a flag. -/
def isFlagHalf (c : Char) : Bool := CodeRange.holds (0x1f1e6, 0x1f1ff) c

/-- The joiner, which asks for what is around it to be drawn as one. -/
def zeroWidthJoiner : Char := '\u200d'

/-- Whether a character leaves the characters around it joined: the joiner, selectors and other
marks that are never drawn. -/
def isUnseenMark (c : Char) : Bool :=
  [(0x34f, 0x34f), (0x17b4, 0x17b5), (0x180b, 0x180d), (0x180f, 0x180f), (0x200d, 0x200d),
    (0xfe00, 0xfe0f), (0xe0100, 0xe01ef)].any (CodeRange.holds · c)

/-- Whether two Arabic letters meet across a character. -/
def isTransparent (c : Char) : Bool := isEmptyChar c && !dividingRanges.any (·.holds c)

/-- Whether a letter is a kind of alef. -/
def isAlef (c : Char) : Bool :=
  [(0x622, 0x623), (0x625, 0x625), (0x627, 0x627), (0x671, 0x673), (0x675, 0x675), (0x773, 0x774),
    (0x870, 0x882)].any (CodeRange.holds · c)

/-- Whether a letter is a kind of lam. -/
def isLam (c : Char) : Bool :=
  [(0x644, 0x644), (0x6b5, 0x6b8), (0x76a, 0x76a), (0x8a6, 0x8a6), (0x8c7, 0x8c7)].any
    (CodeRange.holds · c)

/-- Whether a letter is a Tifinagh consonant. -/
def isTifinaghConsonant (c : Char) : Bool :=
  CodeRange.holds (0x2d31, 0x2d65) c || c == '\u2d6f'

/-- Whether a Khmer letter has a form that stands below another letter. -/
def hasKhmerSubscript (c : Char) : Bool :=
  [(0x1780, 0x1782), (0x1784, 0x1787), (0x1789, 0x178c), (0x178e, 0x1793), (0x1795, 0x1798),
    (0x179b, 0x179d), (0x17a0, 0x17a0), (0x17a2, 0x17a2), (0x17a7, 0x17a7), (0x17ab, 0x17ac),
    (0x17af, 0x17af)].any (CodeRange.holds · c)

/-! ## Single characters -/

/-- How many columns a character takes by itself. -/
def charWidth (c : Char) : Nat :=
  if c ≤ '\u00a0' ∨ c = '\u2d7f' then 1
  else if c = '\u17a4' then 2
  else if c = '\u17d8' then 3
  else if isEmptyChar c then 0
  else if isFlagHalf c then 1
  else if isPicture c ∨ wideRanges.any (·.holds c) then 2
  else 1

/-! ## What stands to the right -/

/-- The end of a letter that may be drawn as one with what stands to its left. -/
inductive LetterEnd where
  /-- The Hebrew letter lamed, which an alef may join. -/
  | lamed
  /-- The Buginese letter ya. -/
  | ya
  /-- A joined ya with the vowel before it, which an a may join. -/
  | yaWithVowel
  /-- A Tifinagh consonant. -/
  | consonant
  /-- A Tifinagh consonant with the consonant joiner before it. -/
  | joinedConsonant
  /-- The second half of a Lisu tone. -/
  | tone
  /-- The Old Turkic letter i of the Orkhon. -/
  | orkhon
  /-- A Khmer letter that has a form below others. -/
  | khmer
  deriving DecidableEq, Repr

/-- What stands to the right of a character, as far as it matters. -/
inductive Following where
  /-- Nothing that joins. -/
  | plain
  | picture
  /-- A skin tone. -/
  | tone
  /-- Half of a flag, or more of them. -/
  | flagHalf (several : Bool)
  | joinedPicture
  /-- The mark of a key, a joiner and a picture. -/
  | joinedKey
  /-- Halves of flags, a joiner and a picture. -/
  | joinedFlag (halves : Nat)
  /-- The tags of a flag, which are letters and digits after them, a joiner and a picture. -/
  | joinedTags (letters digits : Nat)
  /-- A kind of alef. -/
  | alef
  /-- The end of a letter, and whether a joiner stands before it. -/
  | letter (last : LetterEnd) (joined : Bool)
  /-- A Kirat Rai vowel: the sign e, or the sign ai. -/
  | vowel (isAi : Bool)
  deriving DecidableEq, Repr

/-- What a selector right behind a character asks for. -/
inductive Selected where
  | nothing
  | picture
  /-- A text form. -/
  | text
  /-- The wide form of a quotation mark. -/
  | wideQuote
  deriving DecidableEq, Repr

/-- What stands to the right of a character. -/
structure RightSide where
  following : Following := .plain
  /-- What a selector before that asks for. -/
  selected : Selected := .nothing
  deriving DecidableEq, Repr

/-- What a character is to the one on its left. -/
def Following.ofChar (c : Char) : Following :=
  if isTone c then .tone
  else if isFlagHalf c then .flagHalf false
  else if isPicture c then .picture
  else if isAlef c then .alef
  else if c = '\u05dc' then .letter .lamed false
  else if c = '\u1a10' then .letter .ya false
  else if isTifinaghConsonant c then .letter .consonant false
  else if CodeRange.holds (0xa4fc, 0xa4fd) c then .letter .tone true
  else if c = Char.ofNat 0x10c03 then .letter .orkhon false
  else if hasKhmerSubscript c then .letter .khmer true
  else if c = Char.ofNat 0x16d67 then .vowel false
  else if c = Char.ofNat 0x16d68 then .vowel true
  else .plain

/-- Whether what follows is part of a letter, which selectors do not touch. -/
def Following.isLetter : Following → Bool
  | .alef => true
  | .letter _ _ => true
  | _ => false

/-- What is left of what follows once a selector stands before it. -/
def Following.select (following : Following) (selected : Selected) : RightSide :=
  let kept := following.isLetter ||
    (selected == .picture && (following == .joinedPicture || following == .joinedKey))
  ⟨if kept then following else .plain, selected⟩

/-- The selector that a character is. -/
def Selected.ofChar? (c : Char) : Option Selected :=
  if c = '\ufe0f' then some .picture
  else if c = '\ufe0e' then some .text
  else if c = '\ufe01' then some .wideQuote
  else none

/-! ## One character before what follows -/

/-- What a character adds to the width, and what stands then to the right. -/
abbrev Addition := Int × Following

/-- A character drawn as a selector asks. -/
def RightSide.pick? (right : RightSide) (c : Char) : Option Addition :=
  match right.selected with
  | .nothing => none
  | .picture =>
    if canBePicture c then
      some (if right.following = .joinedPicture ∨ right.following = .joinedKey then 0 else 2,
        .picture)
    else none
  | .text => if canBeText c then some (1, .plain) else none
  | .wideQuote =>
    if c = '‘' ∨ c = '’' ∨ c = '“' ∨ c = '”' then some (2, .plain) else none

/-- What follows once a selector has found nothing to act on. -/
def RightSide.unpicked (right : RightSide) : Following :=
  if right.selected = .picture ∧ !right.following.isLetter then .plain else right.following

/-- A character that joins the end of a letter. -/
def LetterEnd.join? (last : LetterEnd) (joined : Bool) (c : Char) : Option Addition :=
  match last with
  | .lamed => if joined ∧ c = '\u05d0' then some (0, .plain) else none
  | .ya => if joined ∧ c = '\u1a17' then some (0, .letter .yaWithVowel true) else none
  | .yaWithVowel => if c = '\u1a15' then some (0, .plain) else none
  | .consonant =>
    if c = '\u2d7f' then some (1, .letter .joinedConsonant true)
    else if joined ∧ isTifinaghConsonant c then some (0, .plain)
    else none
  | .joinedConsonant => if isTifinaghConsonant c then some (-1, .plain) else none
  | .tone => if CodeRange.holds (0xa4f8, 0xa4fb) c then some (0, .plain) else none
  | .orkhon => if joined ∧ c = Char.ofNat 0x10c32 then some (0, .plain) else none
  | .khmer => if c = '\u17d2' then some (-1, .plain) else none

/-- A tag of a flag, or the flag that the tags belong to. -/
def joinTags? (letters digits : Nat) (c : Char) : Option Addition :=
  if CodeRange.holds (0xe0061, 0xe007a) c ∧ digits = 0 ∧ letters < 6 then
    some (0, .joinedTags (letters + 1) 0)
  else if CodeRange.holds (0xe0030, 0xe0039) c ∧ digits < 3 ∧ (digits ≠ 0 ∨ letters ≤ 4) then
    some (0, .joinedTags letters (digits + 1))
  else if c.toNat = 0x1f3f4 ∧ (digits = 3 ∨ (digits = 0 ∧ 3 ≤ letters)) then some (0, .picture)
  else none

/-- A character that joins what follows. -/
def Following.join? (following : Following) (c : Char) : Option Addition :=
  match following with
  | .plain => none
  | .joinedKey => none
  | .alef =>
    if isLam c then some (0, .plain) else if isTransparent c then some (0, .alef) else none
  | .letter last joined =>
    if c = zeroWidthJoiner then some (0, .letter last true)
    else if isUnseenMark c then some (0, .letter last joined)
    else last.join? joined c
  | .vowel isAi =>
    if c.toNat = 0x16d63 then some (0, .plain)
    else if isAi then none
    else if c.toNat = 0x16d67 then some (0, .vowel true)
    else if c.toNat = 0x16d68 then some (1, .vowel false)
    else if c.toNat = 0x16d69 then some (0, .plain)
    else none
  | .picture => if c = zeroWidthJoiner then some (0, .joinedPicture) else none
  | .tone =>
    if c = zeroWidthJoiner then some (0, .joinedPicture)
    else if toneBaseRanges.any (·.holds c) then some (0, .picture)
    else none
  | .flagHalf several =>
    if isFlagHalf c then some (1, .flagHalf true)
    else if several ∧ c = zeroWidthJoiner then some (0, .joinedPicture)
    else none
  | .joinedPicture =>
    if c = '\u20e3' then some (0, .joinedKey)
    else if isFlagHalf c then some (1, .joinedFlag 1)
    else if isTone c then some (0, .tone)
    else if c.toNat = 0xe007f then some (0, .joinedTags 0 0)
    else if isPicture c then some (0, .picture)
    else none
  | .joinedFlag halves =>
    if isFlagHalf c then some (if halves % 2 = 1 then -1 else 3, .joinedFlag (halves + 1))
    else if 2 ≤ halves ∧ c = zeroWidthJoiner then some (0, .joinedPicture)
    else none
  | .joinedTags letters digits => joinTags? letters digits c

/-- What a character adds to the width, and what then stands to the right of the next one. -/
def RightSide.before (right : RightSide) (c : Char) : Int × RightSide :=
  match right.pick? c with
  | some (added, following) => (added, ⟨following, .nothing⟩)
  | none =>
    match Selected.ofChar? c with
    | some selected => (0, right.unpicked.select selected)
    | none =>
      match right.unpicked.join? c with
      | some (added, following) => (added, ⟨following, .nothing⟩)
      | none => (charWidth c, ⟨.ofChar c, .nothing⟩)

/-! ## Texts -/

/-- The width of a text, and what it is to what stands to its left. -/
def widthOf : List Char → Int × RightSide
  | [] => (0, {})
  | c :: rest =>
    let (width, right) := widthOf rest
    let (added, next) := right.before c
    (width + added, next)

/-- How many columns a text on one line takes. -/
def textWidth (text : List Char) : Nat := (widthOf text).1.toNat

end ExtensionProxy
