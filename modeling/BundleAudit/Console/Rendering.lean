import BundleAudit.Attempts
import BundleAudit.Console.Handler
import BundleAudit.Console.Markup
import BundleAudit.Console.Picture
import BundleAudit.Console.Style

/-!
# Rendering

The renderer of the console (`Renderer.reference`). It keeps the styles that are open, the latest first, out of which a
closing tag takes the latest, or the latest with its name. What a handler is called with has to be a value when its
tag is closed, and no style may have a part of a colour that is no number. A style with parameters is looked up even if
no character is shown in it.
-/

namespace BundleAudit.Console

open BundleAudit.Text

/-- The name of a tag, without what stands behind an equality sign. -/
def tagName (tag : List Char) : List Char := tag.takeWhile (· != '=')

/-- What stands behind the equality sign of a tag. -/
def tagParameters? (tag : List Char) : Option (List Char) := (tag.dropWhile (· != '=')).tail?

/-- The normal form of the text of a style. -/
def normalStyle (text : List Char) : Except MarkupError (List Char) := (Style.normalize text).mapError .noNumber

/-- A style that is open. -/
structure OpenStyle where
  /-- The normal form of its text. -/
  name : List Char
  parameters? : Option (List Char)
deriving DecidableEq, Repr

/-- The latest style with a name, and the others. -/
def takeStyle? (name : List Char) : List OpenStyle → Option (OpenStyle × List OpenStyle)
  | [] => none
  | style :: styles =>
    if style.name == name then some (style, styles)
    else (takeStyle? name styles).map fun (taken, others) => (taken, style :: others)

/-- The style that a tag closes if `name` stands behind its slash, and the others. -/
def closeStyle (tag name : List Char) (styles : List OpenStyle) : Except MarkupError (OpenStyle × List OpenStyle) :=
  if trim name == [] then
    match styles with
    | [] => .error (.unmatched tag)
    | style :: styles => .ok (style, styles)
  else do
    match takeStyle? (← normalStyle (trim name)) styles with
    | some taken => .ok taken
    | none => .error (.unmatched tag)

/-- What a handler is called with stands for a value. -/
def OpenStyle.checkHandler (style : OpenStyle) : Except MarkupError Unit :=
  match style.parameters?, style.name with
  | some (c :: rest), '@' :: _ => if Handler.isValue (c :: rest) then .ok () else .error (.noValue (c :: rest))
  | _, _ => .ok ()

/-- Opens or closes a style. -/
def applyTag (styles : List OpenStyle) (tag : List Char) : Except MarkupError (List OpenStyle) :=
  if isClosing tag then do
    let (style, styles) ← closeStyle tag (tagName tag).tail styles
    style.checkHandler
    return styles
  else do return ⟨← normalStyle (tagName tag), tagParameters? tag⟩ :: styles

/-- A style with parameters can be looked up. -/
def checkParameters (tag : List Char) : Except MarkupError Unit :=
  match tagParameters? tag with
  | none => .ok ()
  | some parameters =>
    if isClosing tag || tag.head? == some '@' then .ok ()
    else do
      let name ← normalStyle (tagName tag)
      let _ ← normalStyle (name ++ ' ' :: parameters)

def renderText (s : List Char) : Except MarkupError (List Char) := do
  let _ ← (tagsOf s).foldlM applyTag []
  (tagsOf s).forM checkParameters
  return shownText Picture.ofName? s

/-! ## Closing tags -/

theorem length_of_takeStyle? {name : List Char} {taken : OpenStyle} {others : List OpenStyle} :
    ∀ {styles : List OpenStyle}, takeStyle? name styles = some (taken, others) →
      styles.length = others.length + 1
  | style :: styles, h => by
    unfold takeStyle? at h
    split at h
    · cases h
      rfl
    · obtain ⟨⟨_, others'⟩, taken', h⟩ := Option.map_eq_some_iff.1 h
      cases h
      rw [List.length_cons, length_of_takeStyle? taken', List.length_cons]

theorem length_of_closeStyle {tag name : List Char} {styles : List OpenStyle} {taken : OpenStyle}
    {others : List OpenStyle} (h : closeStyle tag name styles = .ok (taken, others)) :
    styles.length = others.length + 1 := by
  unfold closeStyle at h
  split at h
  · cases styles with
    | nil => cases h
    | cons style styles =>
      cases h
      rfl
  · obtain ⟨style, -, h⟩ := eq_ok_of_bind h
    split at h
    · next taken' found =>
      cases h
      exact length_of_takeStyle? found
    · cases h

/-- Each tag opens or closes one style. -/
theorem length_of_applyTag {styles styles' : List OpenStyle} {tag : List Char}
    (h : applyTag styles tag = .ok styles') :
    styles'.length + [tag].countP isClosing = styles.length + [tag].countP (!isClosing ·) := by
  unfold applyTag at h
  split at h
  · next closing =>
    obtain ⟨⟨style, others⟩, closed, h⟩ := eq_ok_of_bind h
    obtain ⟨-, -, h⟩ := eq_ok_of_bind h
    obtain rfl := Except.ok.inj h
    simp [closing, length_of_closeStyle closed]
  · next opening =>
    obtain ⟨name, -, h⟩ := eq_ok_of_bind h
    obtain rfl := Except.ok.inj h
    simp [opening]

theorem length_of_foldlM_applyTag : ∀ {tags : List (List Char)} {styles styles' : List OpenStyle},
    tags.foldlM applyTag styles = .ok styles' →
      styles'.length + tags.countP isClosing = styles.length + tags.countP (!isClosing ·)
  | [], styles, styles', h => by
    cases h
    rfl
  | tag :: tags, styles, styles', h => by
    rw [List.foldlM_cons] at h
    obtain ⟨between, first, h⟩ := eq_ok_of_bind h
    have one := length_of_applyTag first
    have more := length_of_foldlM_applyTag h
    rw [← List.singleton_append, List.countP_append, List.countP_append]
    omega

theorem renderText_unmatched {s : List Char} {front : List (List Char)} (isFront : front <+: tagsOf s)
    (unmatched : Unmatched front) : ∃ e, renderText s = .error e := by
  cases h : renderText s with
  | error e => exact ⟨e, rfl⟩
  | ok shown =>
    obtain ⟨back, split⟩ := isFront
    unfold renderText at h
    rw [← split, List.foldlM_append] at h
    obtain ⟨_, tags, -⟩ := eq_ok_of_bind h
    obtain ⟨styles, first, -⟩ := eq_ok_of_bind tags
    have balance := length_of_foldlM_applyTag first
    rw [List.length_nil] at balance
    unfold Unmatched at unmatched
    omega

/-! ## Words -/

section
variable {word : List Char}

theorem isSmallLetter_iff {c : Char} : isSmallLetter c = true ↔ 0x61 ≤ c.toNat ∧ c.toNat ≤ 0x7a := by
  simp only [isSmallLetter, Bool.and_eq_true, decide_eq_true_eq]
  exact Iff.rfl

theorem isBlank_of_isSmallLetter {c : Char} (h : isSmallLetter c) : isBlank c = false := by
  obtain ⟨low, high⟩ := isSmallLetter_iff.1 h
  simp [isBlank, blankRanges, inRanges]
  omega

theorem lowerAt_of_isSmallLetter {c : Char} (h : isSmallLetter c) (before after : List Char) :
    lowerAt before c after = [c] := by
  obtain ⟨low, high⟩ := isSmallLetter_iff.1 h
  rw [lowerAt_of_ascii (by omega), toLower_of_lt (by omega)]

theorem lowerOnto_of_letters : ∀ {word : List Char}, word.all isSmallLetter → ∀ done before : List Char,
    lowerOnto done before word = done.reverse ++ word
  | [], _, done, before => by simp [lowerOnto]
  | c :: word, letters, done, before => by
    rw [List.all_cons, Bool.and_eq_true] at letters
    rw [lowerOnto, lowerAt_of_isSmallLetter letters.1, lowerOnto_of_letters letters.2]
    simp

theorem lower_of_letters (letters : word.all isSmallLetter) : lower word = word :=
  lowerOnto_of_letters letters [] []

theorem dropWhile_isBlank_of_letters (letters : word.all isSmallLetter) : word.dropWhile isBlank = word := by
  cases word with
  | nil => rfl
  | cons c word =>
    rw [List.all_cons, Bool.and_eq_true] at letters
    rw [List.dropWhile_cons_of_neg (by simp [isBlank_of_isSmallLetter letters.1])]

theorem trim_of_letters (letters : word.all isSmallLetter) : trim word = word := by
  rw [trim, trimFront, dropWhile_isBlank_of_letters letters, trimBack,
    dropWhile_isBlank_of_letters (by rwa [List.all_reverse]), List.reverse_reverse]

theorem fieldsFrom_of_letters : ∀ {c : Char} {word : List Char}, (c :: word).all isSmallLetter →
    fieldsFrom (c :: word) = ([c :: word], true)
  | c, [], letters => by
    rw [List.all_cons, Bool.and_eq_true] at letters
    simp [fieldsFrom, isBlank_of_isSmallLetter letters.1]
  | c, d :: word, letters => by
    rw [List.all_cons, Bool.and_eq_true] at letters
    rw [fieldsFrom, fieldsFrom_of_letters letters.2]
    simp [growWord, isBlank_of_isSmallLetter letters.1]

theorem checkColor_of_letters (letters : word.all isSmallLetter) :
    checkColor word = .ok () ∨ checkColor word = .error .unknown := by
  have noParts : lightParts? word = none := by
    unfold lightParts?
    split
    · simp [isSmallLetter] at letters
    · rfl
  unfold checkColor
  rw [noParts]
  split
  · exact .inl rfl
  · exact .inr rfl

/-- A word is a style or passes for one. -/
theorem normalStyle_of_letters (letters : word.all isSmallLetter) : ∃ name, normalStyle word = .ok name := by
  have readable : (∃ style, Style.read word = .ok style) ∨ Style.read word = .error .unknown := by
    unfold Style.read
    split
    · exact .inl ⟨_, rfl⟩
    · cases word with
      | nil => exact .inl ⟨_, rfl⟩
      | cons c word =>
        rw [fields, fieldsFrom_of_letters letters, Style.ofWords, lower_of_letters letters]
        cases attribute? (c :: word) with
        | some a => exact .inl ⟨_, rfl⟩
        | none =>
          rcases checkColor_of_letters letters with known | unknown
          · rw [known]
            exact .inl ⟨_, rfl⟩
          · rw [unknown]
            exact .inr rfl
  unfold normalStyle Style.normalize
  rcases readable with ⟨style, known⟩ | unknown
  · exact ⟨_, by rw [known]; rfl⟩
  · exact ⟨_, by rw [unknown]; rfl⟩

theorem ne_of_isSmallLetter {c : Char} (h : isSmallLetter c) : c ≠ '=' ∧ c ≠ '/' := by
  constructor <;> (rintro rfl; exact absurd h (by decide))

/-- The name of a word, also of one that is closed, is the word; there are no parameters. -/
theorem name_of_letters : ∀ {word : List Char}, word.all isSmallLetter →
    tagName word = word ∧ tagParameters? word = none
  | [], _ => ⟨rfl, rfl⟩
  | c :: word, letters => by
    rw [List.all_cons, Bool.and_eq_true] at letters
    obtain ⟨name, parameters⟩ := name_of_letters letters.2
    have other : c ≠ '=' := (ne_of_isSmallLetter letters.1).1
    constructor
    · rw [tagName, List.takeWhile_cons_of_pos (by simpa using other)]
      exact congrArg (c :: ·) name
    · rw [tagParameters?, List.dropWhile_cons_of_pos (by simpa using other)]
      exact parameters

theorem isClosing_of_letters (letters : word.all isSmallLetter) : isClosing word = false := by
  cases word with
  | nil => rfl
  | cons c word =>
    rw [List.all_cons, Bool.and_eq_true] at letters
    simpa [isClosing] using (ne_of_isSmallLetter letters.1).2

theorem applyTag_opening (letters : word.all isSmallLetter) {name : List Char} (known : normalStyle word = .ok name)
    (styles : List OpenStyle) : applyTag styles word = .ok (⟨name, none⟩ :: styles) := by
  obtain ⟨named, noParameters⟩ := name_of_letters letters
  unfold applyTag
  rw [isClosing_of_letters letters, named, noParameters, known]
  rfl

theorem applyTag_closing (letters : word.all isSmallLetter) {name : List Char} (known : normalStyle word = .ok name)
    (styles : List OpenStyle) : applyTag (⟨name, none⟩ :: styles) ('/' :: word) = .ok styles := by
  have named : (tagName ('/' :: word)).tail = word := (name_of_letters letters).1
  have closed : closeStyle ('/' :: word) word (⟨name, none⟩ :: styles) = .ok (⟨name, none⟩, styles) := by
    unfold closeStyle
    rw [trim_of_letters letters, known]
    split
    · rfl
    · simp [takeStyle?, bind, Except.bind]
  unfold applyTag
  rw [if_pos (by rfl), named, closed]
  rfl

/-- Words that are closed in the reverse of the order in which they were opened. -/
theorem foldlM_applyTag_of_nest {words tags opened : List (List Char)} (nested : nest words tags = some opened) :
    ∀ {names : List (List Char)}, (∀ word ∈ words, word.all isSmallLetter) → words.mapM normalStyle = .ok names →
      (∃ styles, tags.foldlM applyTag (names.map (⟨·, none⟩)) = .ok styles) ∧
        ∀ tag ∈ tags, tagParameters? tag = none := by
  fun_induction nest words tags with
  | case1 =>
    intro names _ _
    exact ⟨⟨_, rfl⟩, by simp⟩
  | case2 word tags last below same ih =>
    intro names letters known
    obtain rfl : last = word := eq_of_beq same
    rw [List.mapM_cons] at known
    obtain ⟨name, first, known⟩ := eq_ok_of_bind known
    obtain ⟨names, rest, known⟩ := eq_ok_of_bind known
    obtain rfl := Except.ok.inj known
    obtain ⟨isWord, letters⟩ := List.forall_mem_cons.1 letters
    obtain ⟨⟨styles, applied⟩, noParameters⟩ := ih nested letters rest
    refine ⟨⟨styles, ?_⟩, List.forall_mem_cons.2 ⟨(name_of_letters isWord).2, noParameters⟩⟩
    rw [List.map_cons, List.foldlM_cons, applyTag_closing isWord first]
    exact applied
  | case5 words word tags _ isWord ih =>
    intro names letters known
    obtain ⟨name, first⟩ := normalStyle_of_letters isWord
    have both : (word :: words).mapM normalStyle = .ok (name :: names) := by
      rw [List.mapM_cons, first, known]
      rfl
    obtain ⟨⟨styles, applied⟩, noParameters⟩ := ih nested (List.forall_mem_cons.2 ⟨isWord, letters⟩) both
    refine ⟨⟨styles, ?_⟩, List.forall_mem_cons.2 ⟨(name_of_letters isWord).2, noParameters⟩⟩
    rw [List.foldlM_cons, applyTag_opening isWord first]
    exact applied
  | case3 | case4 | case6 => cases nested

theorem forM_checkParameters : ∀ {tags : List (List Char)}, (∀ tag ∈ tags, tagParameters? tag = none) →
    tags.forM checkParameters = .ok ()
  | [], _ => rfl
  | tag :: tags, noParameters => by
    obtain ⟨first, rest⟩ := List.forall_mem_cons.1 noParameters
    have checked : checkParameters tag = .ok () := by
      rw [checkParameters, first]
    show (checkParameters tag >>= fun _ => tags.forM checkParameters) = _
    rw [checked]
    exact forM_checkParameters rest

end

theorem renderText_nested {s : List Char} (nested : (nest [] (tagsOf s)).isSome) : ∃ shown, renderText s = .ok shown := by
  obtain ⟨opened, nested⟩ := Option.isSome_iff_exists.1 nested
  obtain ⟨⟨styles, applied⟩, noParameters⟩ :=
    foldlM_applyTag_of_nest nested (by simp) (show [].mapM normalStyle = .ok [] from rfl)
  refine ⟨shownText Picture.ofName? s, ?_⟩
  unfold renderText
  rw [List.map_nil] at applied
  rw [applied, forM_checkParameters noParameters]
  rfl

theorem shown_of_renderText {s shown : List Char} (h : renderText s = .ok shown) :
    shown = shownText Picture.ofName? s := by
  obtain ⟨_, -, h⟩ := eq_ok_of_bind h
  obtain ⟨_, -, h⟩ := eq_ok_of_bind h
  exact (Except.ok.inj h).symm

/-- The renderer of the console. -/
def Renderer.reference : Renderer where
  render := renderText
  picture? := Picture.ofName?
  picture?_plain := Picture.plain_of_ofName?
  render_eq := shown_of_renderText
  render_nested := renderText_nested
  render_unmatched := renderText_unmatched

end BundleAudit.Console
