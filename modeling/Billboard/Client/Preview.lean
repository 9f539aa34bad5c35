import Billboard.Client.Rows
import Billboard.Library.Base64

/-!
# The preview

`previewButton` takes the text of the image link for a link if it starts with `http`, and for the
Base64 text of an image otherwise.  Its `catch` clauses are for `IOException`s; the calls it chains
also throw other exceptions.

* **`isLink_encode_iff`** — which Base64 texts start with `http`.
* **`preview_safe_iff`** — the handler shows a preview or ends in a `catch` clause, and reads the
  bytes of every Base64 text, exactly when the text is `Previewable`.
-/

namespace Billboard

open Java

variable {Image : Type}

/-! ## State -/

/-- What the handler calls of the image library and of `URL`.  An `Except.error` is an exception
that the call throws. -/
structure Jdk (Image : Type) where
  /-- `ImageIO.read` of a stream, with `none` where no reader recognises the bytes. -/
  readStream : List UInt8 → Except Throwable (Option Image)
  /-- `new URL(s)` throws. -/
  malformedURL : Text → Bool
  /-- `ImageIO.read` of a URL. -/
  readURL : Text → Except Throwable (Option Image)
  /-- `image.getScaledInstance(width, height, Image.SCALE_SMOOTH)`. -/
  getScaledInstance : Image → ℕ → ℕ → Image

/-- The window, the fields of the preview, the bytes handed to the image reader and the dialogs
shown, each a message with an icon. -/
structure Preview (Image : Type) where
  client : Client
  billboardName : Text
  msg : Text
  imagelink : Text
  handed : List (List UInt8)
  dialogs : List (Text × Image)

/-! ## The handler -/

/-- `area.getText()`. -/
def previewText (area : TextArea) : Act (Preview Image) Text := do
  let p ← get
  Act.call (!area.bound) .nullPointer
  pure (p.client.text area)

/-- The message of the dialog. -/
def Preview.message (p : Preview Image) : Text :=
  "Billboard Name: ".toList ++ p.billboardName ++ ['\n'] ++ "Message:".toList ++ p.msg

def showMessageDialog (icon : Image) : Act (Preview Image) Unit :=
  modify fun p => { p with dialogs := p.dialogs ++ [(p.message, icon)] }

/-- The statements inside the `try`.  `new ImageIcon(img)` throws if there is no image. -/
def tryPreview (jdk : Jdk Image) : Act (Preview Image) Unit := do
  let imagelink := (← get).imagelink
  let scheme ← Act.orThrow .stringIndex (substring imagelink 4)
  if scheme ≠ utf16 "http".toList then
    let bytes ← Act.orThrow .illegalArgument (Base64.decode imagelink)
    modify fun p => { p with handed := p.handed ++ [bytes] }
    let img ← Act.ofExcept (jdk.readStream bytes)
    let image ← Act.orThrow .nullPointer img
    showMessageDialog (jdk.getScaledInstance image 240 120)
  else
    Act.call (jdk.malformedURL imagelink) .malformedURL
    let img1 ← Act.ofExcept (jdk.readURL imagelink)
    let image ← Act.orThrow .nullPointer img1
    showMessageDialog (jdk.getScaledInstance image 240 120)

def previewButton (jdk : Jdk Image) : Act (Preview Image) Unit := do
  let billboardName ← previewText .createBillboardName
  modify fun p => { p with billboardName := billboardName }
  let msg ← previewText .createMsg
  modify fun p => { p with msg := msg }
  let imagelink ← previewText .createImgLink
  modify fun p => { p with imagelink := imagelink }
  Act.catching Throwable.isIOException (tryPreview jdk)

/-! ## What the handler does -/

/-- The window with the texts of the form in the fields of the preview. -/
def Preview.stored (p : Preview Image) : Preview Image :=
  { p with
    billboardName := p.client.text .createBillboardName
    msg := p.client.text .createMsg
    imagelink := p.client.text .createImgLink }

/-- The window after bytes have been handed to the image reader. -/
def Preview.handing (p : Preview Image) (bytes : List UInt8) : Preview Image :=
  { p with handed := p.handed ++ [bytes] }

/-- What both branches do with what they read. -/
def showImage (jdk : Jdk Image) (result : Except Throwable (Option Image)) :
    Act (Preview Image) Unit := do
  let img ← Act.ofExcept result
  let image ← Act.orThrow .nullPointer img
  showMessageDialog (jdk.getScaledInstance image 240 120)

section

variable {jdk : Jdk Image} {p : Preview Image}

lemma after_previewButton (jdk : Jdk Image) (p : Preview Image) :
    (previewButton jdk).after p = (tryPreview jdk).after p.stored :=
  Act.after_catching Throwable.isIOException (tryPreview jdk) p.stored

/-- The handler completes exactly where the exceptions of its `try` are caught. -/
lemma thrown_previewButton (jdk : Jdk Image) (p : Preview Image) :
    (previewButton jdk).thrown p = none
      ↔ ∀ t, (tryPreview jdk).thrown p.stored = some t → t.isIOException = true :=
  Act.thrown_catching_eq_none

lemma run_tryPreview_short (short : substring p.imagelink 4 = none) :
    (tryPreview jdk).run p = .error .stringIndex p := by
  rw [tryPreview, Act.run_bind_of_ok (Act.run_get p)]
  dsimp only
  rw [short, Act.run_bind_of_error (Act.run_orThrow_none _ _)]

/-- A text that is no link is decoded. -/
lemma run_tryPreview_text (jdk : Jdk Image) {scheme : List ℕ}
    (long : substring p.imagelink 4 = some scheme)
    (other : scheme ≠ utf16 "http".toList) :
    (tryPreview jdk).run p = match Base64.decode p.imagelink with
      | none => .error .illegalArgument p
      | some bytes => (showImage jdk (jdk.readStream bytes)).run (p.handing bytes) := by
  rw [tryPreview, Act.run_bind_of_ok (Act.run_get p)]
  dsimp only
  rw [long, Act.run_bind_of_ok (Act.run_orThrow_some _ _ _),
    if_pos other]
  cases Base64.decode p.imagelink with
  | none => rfl
  | some bytes => rfl

/-- A link is opened. -/
lemma run_tryPreview_link (jdk : Jdk Image)
    (link : substring p.imagelink 4 = some (utf16 "http".toList)) :
    (tryPreview jdk).run p = if jdk.malformedURL p.imagelink then .error .malformedURL p
      else (showImage jdk (jdk.readURL p.imagelink)).run p := by
  rw [tryPreview, Act.run_bind_of_ok (Act.run_get p)]
  dsimp only
  rw [link, Act.run_bind_of_ok (Act.run_orThrow_some _ _ _),
    if_neg (not_not_intro rfl)]
  cases malformed : jdk.malformedURL p.imagelink with
  | true => rfl
  | false => rfl

/-! ## What is caught -/

/-- The read gives an image, or an exception that the handler catches. -/
def Recovers : Except Throwable (Option Image) → Prop
  | .ok img => img ≠ none
  | .error t => t.isIOException = true

/-- The code ends with a dialog, or by an exception that the handler catches. -/
def ShowsOrCatches (body : Act (Preview Image) Unit) (p : Preview Image) : Prop :=
  (∃ icon, body.thrown p = none ∧ (body.after p).dialogs = p.dialogs ++ [(p.message, icon)])
    ∨ ∃ t, body.thrown p = some t ∧ t.isIOException = true

/-- A read that recovers is shown or its exception caught; the icon of no image throws another. -/
lemma showsOrCatches_showImage (result : Except Throwable (Option Image)) :
    ShowsOrCatches (showImage jdk result) p ↔ Recovers result := by
  cases result with
  | ok img =>
      cases img with
      | none =>
          refine iff_of_false ?_ fun recovers => recovers rfl
          rintro (⟨icon, completes, -⟩ | ⟨t, thrown, caught⟩)
          · cases (show some Throwable.nullPointer = none from completes)
          · obtain rfl : Throwable.nullPointer = t := Option.some.inj thrown
            exact absurd caught (by decide)
      | some image =>
          exact iff_of_true (.inl ⟨_, rfl, rfl⟩) (Option.some_ne_none image)
  | error t =>
      constructor
      · rintro (⟨icon, completes, -⟩ | ⟨t', thrown, caught⟩)
        · cases (show some t = none from completes)
        · obtain rfl : t = t' := Option.some.inj thrown
          exact caught
      · intro caught
        exact .inr ⟨t, rfl, caught⟩

lemma ShowsOrCatches.congr {body body' : Act (Preview Image) Unit} {p' : Preview Image}
    (run : body.run p = body'.run p') (message : p'.message = p.message)
    (dialogs : p'.dialogs = p.dialogs) : ShowsOrCatches body p ↔ ShowsOrCatches body' p' := by
  rw [ShowsOrCatches, ShowsOrCatches, Act.thrown, Act.thrown, Act.after, Act.after, run, message,
    dialogs]

/-- An exception that is thrown but not caught. -/
lemma not_showsOrCatches {body : Act (Preview Image) Unit} {t : Throwable} {q : Preview Image}
    (run : body.run p = .error t q) (escapes : t.isIOException = false) :
    ¬ ShowsOrCatches body p := by
  have thrown := Act.thrown_of_error run
  rintro (⟨icon, completes, -⟩ | ⟨t', thrown', caught⟩)
  · exact Option.some_ne_none t (thrown.symm.trans completes)
  · obtain rfl : t = t' := Option.some.inj (thrown.symm.trans thrown')
    rw [escapes] at caught
    exact Bool.noConfusion caught

/-- The read of a stream or of a URL changes nothing but the dialogs. -/
lemma keeps_handed_showImage (result : Except Throwable (Option Image)) :
    Act.Keeps Preview.handed (showImage jdk result) := by
  intro p
  cases result with
  | ok img =>
      cases img with
      | none => rfl
      | some image => rfl
  | error t => rfl

/-! ## The two branches -/

lemma ends_text_iff {scheme : List ℕ} (long : substring p.imagelink 4 = some scheme)
    (other : scheme ≠ utf16 "http".toList) :
    ShowsOrCatches (tryPreview jdk) p
      ↔ ∃ bytes, Base64.decode p.imagelink = some bytes ∧ Recovers (jdk.readStream bytes) := by
  have run := run_tryPreview_text jdk long other
  cases decoded : Base64.decode p.imagelink with
  | none =>
      rw [decoded] at run
      refine iff_of_false (not_showsOrCatches run rfl) ?_
      rintro ⟨bytes, h, -⟩
      exact Option.some_ne_none bytes h.symm
  | some bytes =>
      rw [decoded] at run
      rw [ShowsOrCatches.congr run rfl rfl, showsOrCatches_showImage]
      simp

lemma ends_link_iff (link : substring p.imagelink 4 = some (utf16 "http".toList)) :
    ShowsOrCatches (tryPreview jdk) p
      ↔ jdk.malformedURL p.imagelink = true ∨ Recovers (jdk.readURL p.imagelink) := by
  have run := run_tryPreview_link jdk link
  cases malformed : jdk.malformedURL p.imagelink with
  | true =>
      rw [if_pos malformed] at run
      exact iff_of_true (.inr ⟨_, Act.thrown_of_error run, rfl⟩) (.inl rfl)
  | false =>
      rw [if_neg (by simp [malformed])] at run
      rw [ShowsOrCatches.congr run rfl rfl, showsOrCatches_showImage]
      simp

lemma handed_text {scheme : List ℕ} {bytes : List UInt8}
    (long : substring p.imagelink 4 = some scheme) (other : scheme ≠ utf16 "http".toList)
    (decoded : Base64.decode p.imagelink = some bytes) :
    ((tryPreview jdk).after p).handed = p.handed ++ [bytes] := by
  have run := run_tryPreview_text jdk long other
  rw [decoded] at run
  rw [Act.after, run]
  exact keeps_handed_showImage _ (p.handing bytes)

/-- For a link the stream reader is not called. -/
lemma handed_link (link : substring p.imagelink 4 = some (utf16 "http".toList)) :
    ((tryPreview jdk).after p).handed = p.handed := by
  rw [Act.after, run_tryPreview_link jdk link]
  split_ifs
  · rfl
  · exact keeps_handed_showImage _ p

end

/-! ## The condition -/

/-- The text starts with `http`. -/
def IsLink (s : Text) : Prop :=
  substring s 4 = some (utf16 "http".toList)

lemma encode_http : Base64.encode [0x86, 0xDB, 0x69] = "http".toList := by
  decide +kernel

/-- **The Base64 texts that are taken for links** are those of the byte strings that start with
`86 DB 69`. -/
theorem isLink_encode_iff (bytes : List UInt8) :
    IsLink (Base64.encode bytes) ↔ bytes.take 3 = [0x86, 0xDB, 0x69] := by
  have plain : ∀ c ∈ "http".toList, c.toNat < 0xD800 := by
    have all : ("http".toList.all fun c => c.toNat < 0xD800) = true := by decide +kernel
    exact fun c mem => of_decide_eq_true (List.all_eq_true.mp all c mem)
  have start : IsLink (Base64.encode bytes)
      ↔ (utf16 (Base64.encode bytes)).take 4 = utf16 "http".toList := by
    rw [IsLink, substring]
    split_ifs with long
    · exact Option.some_inj
    · refine iff_of_false (by simp) ?_
      intro same
      have four : ((utf16 (Base64.encode bytes)).take 4).length = 4 := congrArg List.length same
      rw [List.length_take] at four
      omega
  rw [start]
  refine (take_utf16_eq_iff plain _).trans ?_
  show (Base64.encode bytes).take 4 = _ ↔ _
  rw [← encode_http, Base64.take_encode]
  exact ⟨Base64.encode_injective, congrArg Base64.encode⟩

/-- The text has four units.  If it is no link, it is decoded and the read of its bytes recovers; if
it is one, it is the Base64 text of no bytes, and it is malformed or the read of it recovers. -/
structure Previewable (jdk : Jdk Image) (s : Text) : Prop where
  long : 4 ≤ (utf16 s).length
  text : ¬ IsLink s → ∃ bytes, Base64.decode s = some bytes ∧ Recovers (jdk.readStream bytes)
  link : IsLink s → jdk.malformedURL s = true ∨ Recovers (jdk.readURL s)
  noImage : IsLink s → ∀ b, b ≠ [] → s ≠ Base64.encode b

/-- The handler shows a preview or ends in a `catch` clause, no exception escapes it, and it hands
the image reader the bytes of which the text is the Base64 text. -/
structure PreviewSafe (jdk : Jdk Image) (p : Preview Image) : Prop where
  ends : ShowsOrCatches (tryPreview jdk) p.stored
  completes : (previewButton jdk).thrown p = none
  bytes : ∀ b, b ≠ [] → p.client.text .createImgLink = Base64.encode b →
    ((previewButton jdk).after p).handed = p.handed ++ [b]

section

variable {jdk : Jdk Image} {p : Preview Image}

lemma completes_of_ends (ends : ShowsOrCatches (tryPreview jdk) p.stored) :
    (previewButton jdk).thrown p = none := by
  rw [thrown_previewButton]
  intro t thrown
  rcases ends with ⟨icon, completes, -⟩ | ⟨t', thrown', caught⟩
  · exact absurd (thrown.symm.trans completes) (Option.some_ne_none t)
  · obtain rfl : t = t' := Option.some.inj (thrown.symm.trans thrown')
    exact caught

lemma not_ends_short {s : Text} (short : ¬ 4 ≤ (utf16 s).length)
    (stored : p.stored.imagelink = s) : ¬ ShowsOrCatches (tryPreview jdk) p.stored := by
  have none_left : substring p.stored.imagelink 4 = none := by
    rw [stored]
    exact if_neg short
  exact not_showsOrCatches (run_tryPreview_short none_left) rfl

/-- A text with four units that is no link. -/
lemma safe_text_iff (long : 4 ≤ (utf16 (p.client.text .createImgLink)).length)
    (other : ¬ IsLink (p.client.text .createImgLink)) :
    PreviewSafe jdk p ↔ Previewable jdk (p.client.text .createImgLink) := by
  have scheme : substring p.stored.imagelink 4
      = some ((utf16 (p.client.text .createImgLink)).take 4) := if_pos long
  have different : (utf16 (p.client.text .createImgLink)).take 4 ≠ utf16 "http".toList := by
    intro same
    exact other (scheme.trans (congrArg some same))
  constructor
  · intro safe
    exact ⟨long, fun _ => (ends_text_iff scheme different).mp safe.ends,
      fun link => absurd link other, fun link => absurd link other⟩
  · intro previewable
    have ends := (ends_text_iff scheme different).mpr (previewable.text other)
    refine ⟨ends, completes_of_ends ends, ?_⟩
    intro b nonempty encoded
    have decoded : Base64.decode p.stored.imagelink = some b :=
      (congrArg Base64.decode encoded).trans (Base64.decode_encode b)
    rw [after_previewButton]
    exact handed_text scheme different decoded

/-- A link is not decoded, also where it is the Base64 text of an image. -/
lemma safe_link_iff (long : 4 ≤ (utf16 (p.client.text .createImgLink)).length)
    (link : IsLink (p.client.text .createImgLink)) :
    PreviewSafe jdk p ↔ Previewable jdk (p.client.text .createImgLink) := by
  have opened : substring p.stored.imagelink 4 = some (utf16 "http".toList) := link
  constructor
  · intro safe
    refine ⟨long, fun other => absurd link other, fun _ => (ends_link_iff opened).mp safe.ends, ?_⟩
    intro _ b nonempty encoded
    have handed := safe.bytes b nonempty encoded
    rw [after_previewButton, handed_link opened] at handed
    exact List.cons_ne_nil b [] (List.self_eq_append_right.mp handed)
  · intro previewable
    have ends := (ends_link_iff opened).mpr (previewable.link link)
    refine ⟨ends, completes_of_ends ends, ?_⟩
    intro b nonempty encoded
    exact absurd encoded (previewable.noImage link b nonempty)

end

/-- **The handler shows a preview or ends in one of its `catch` clauses, and reads the bytes of
every Base64 text, if and only if the text in the box is `Previewable`.** -/
theorem preview_safe_iff (jdk : Jdk Image) (p : Preview Image) :
    PreviewSafe jdk p ↔ Previewable jdk (p.client.text .createImgLink) := by
  by_cases long : 4 ≤ (utf16 (p.client.text .createImgLink)).length
  · by_cases link : IsLink (p.client.text .createImgLink)
    · exact safe_link_iff long link
    · exact safe_text_iff long link
  · refine iff_of_false ?_ fun previewable => long previewable.long
    intro safe
    exact not_ends_short long rfl safe.ends

/-- A library without readers, for which every URL is malformed. -/
def noReaders : Jdk Unit where
  readStream _ := .ok none
  malformedURL _ := true
  readURL _ := .ok none
  getScaledInstance image _ _ := image

/-- The window after a text has been typed into the box of the image link. -/
def previewOf (s : Text) : Preview Unit where
  client := (Client.start twoRows).step (.type .createImgLink s)
  billboardName := []
  msg := []
  imagelink := []
  handed := []
  dialogs := []

/-- An empty box throws an exception that is not caught, and `http` is the Base64 text of three
bytes which no reader is given. -/
theorem preview_unsafe :
    ¬ PreviewSafe noReaders (previewOf []) ∧ ¬ PreviewSafe noReaders (previewOf "http".toList) := by
  constructor
  · intro safe
    exact not_ends_short (s := []) (by decide) rfl safe.ends
  · intro safe
    have link : substring (previewOf "http".toList).stored.imagelink 4
        = some (utf16 "http".toList) := rfl
    have handed := safe.bytes [0x86, 0xDB, 0x69] (by simp) encode_http.symm
    rw [after_previewButton, handed_link link] at handed
    exact List.cons_ne_nil _ [] (List.self_eq_append_right.mp handed)

end Billboard
