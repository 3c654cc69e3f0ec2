import Mathlib.Data.List.Basic
import Mathlib.Data.List.Induction
import Mathlib.Data.List.TakeWhile
import RegisterMachine.Template

/-!
# Proofs — Text — Templates

A template can be put together from parts: text without braces, doubled braces, and fields, each
with a closing brace of its own (`Template.Part`).  Reading it need not find these parts again, for
a closing brace is paired with the next one even if it closes a field and the next ones are a
doubled brace.  But closing braces mean themselves, paired or not; so a template says the same if
every doubled brace is taken for two characters, and then it is read character by character and
field by field (`readSingly_cons`, `readSingly_field`).

* `fields_identified`: a template made of parts is resolved part by part, and the names that come
  with it are those that the result refers to, each once.
* `resolve_resolve`: whatever a template looks like, it is resolved once and for all.
-/

namespace RegisterMachine

namespace Template

/-- A text in which no brace stands. -/
structure Plain where
  chars : List Char
  no_open : '\x7b' ∉ chars
  no_close : '\x7d' ∉ chars

/-- A name that a field can have: no brace and no colon stands in it. -/
structure FieldName extends Plain where
  no_colon : ':' ∉ chars

/-- A part that a template can be made of. -/
inductive Part where
  | literal (text : Plain)
  | openBrace
  | closeBrace
  /-- A field, with or without a format for its value. -/
  | field (name : FieldName) (format : Option Plain)

/-- What stands in a field behind its name. -/
def formatText : Option Plain → List Char
  | none        => ['\x7d']
  | some format => ':' :: (format.chars ++ ['\x7d'])

/-- The characters of a part. -/
def Part.text : Part → List Char
  | literal text      => text.chars
  | openBrace         => ['\x7b', '\x7b']
  | closeBrace        => ['\x7d', '\x7d']
  | field name format => '\x7b' :: (name.chars ++ formatText format)

/-- The template that is made of the parts. -/
def ofParts (parts : List Part) : String :=
  String.ofList (parts.flatMap Part.text)

/-- The name consists of one or more of the digits from 0 to 9. -/
def FieldName.IsPosition (name : FieldName) : Prop :=
  name.chars ≠ [] ∧ ∀ c ∈ name.chars, c.isDigit = true

-- over the characters of the name, and not over all characters
instance (name : FieldName) : Decidable name.IsPosition :=
  @instDecidableAnd _ _ _ (List.decidableBAll _ name.chars)

/-- The name with an underscore in front. -/
def FieldName.underscored (name : FieldName) : FieldName where
  chars := '_' :: name.chars
  no_open := by simpa using name.no_open
  no_close := by simpa using name.no_close
  no_colon := by simpa using name.no_colon

/-- A position gets an underscore in front; all else stays. -/
def Part.identify : Part → Part
  | field name format => field (if name.IsPosition then name.underscored else name) format
  | part              => part

/-- The name of a field that has one. -/
def Part.name? : Part → Option String
  | field name _ => if name.chars = [] then none else some (String.ofList name.chars)
  | _            => none

/-- The names in the parts, as they occur. -/
def namesIn (parts : List Part) : List String :=
  parts.filterMap Part.name?

/-- `names` are those that occur in `all`, each once, in order of first occurrence. -/
structure ListsOnce (all names : List String) : Prop where
  mem_iff : ∀ name, name ∈ names ↔ name ∈ all
  nodup : names.Nodup
  ordered : names.Pairwise fun name later => all.idxOf name < all.idxOf later

/-! ### Reading what comes next -/

theorem read_open_open (cs : List Char) :
    read ('\x7b' :: '\x7b' :: cs) = .escaped '\x7b' :: read cs := by
  rw [read]

theorem read_close_close (cs : List Char) :
    read ('\x7d' :: '\x7d' :: cs) = .escaped '\x7d' :: read cs := by
  rw [read]

theorem read_cons {c : Char} {cs : List Char} (hopen : c ≠ '\x7b')
    (hclose : c = '\x7d' → cs.head? ≠ some '\x7d') : read (c :: cs) = .char c :: read cs := by
  rw [read, if_neg hopen]
  · rintro cs rfl rfl
    exact hopen rfl
  · rintro cs rfl rfl
    exact hclose rfl rfl

/-- A name is read up to where it ends. -/
theorem read_field {name rest : List Char} (hname : ∀ c ∈ name, isNameChar c = true)
    (hopen : (name ++ rest).head? ≠ some '\x7b')
    (hrest : ∀ c ∈ rest.head?, isNameChar c = false) :
    read ('\x7b' :: (name ++ rest)) = .field name :: read rest := by
  have htake : rest.takeWhile isNameChar = [] := by
    cases rest with
    | nil => rfl
    | cons c rest => exact List.takeWhile_cons_of_neg (by simp [hrest c rfl])
  have hdrop : rest.dropWhile isNameChar = rest := by
    cases rest with
    | nil => rfl
    | cons c rest => exact List.dropWhile_cons_of_neg (by simp [hrest c rfl])
  rw [read, if_pos rfl, List.takeWhile_append_of_pos hname, List.dropWhile_append_of_pos hname,
    htake, hdrop, List.append_nil]
  · intro cs _ hcs
    exact hopen (by rw [hcs]; rfl)
  · intro cs h
    exact absurd h (by decide)

/-! ### Character by character -/

/-- Takes a doubled brace for two characters. -/
def Piece.singly : Piece → List Piece
  | .escaped brace => [.char brace, .char brace]
  | piece          => [piece]

/-- Cuts a text into characters and fields. -/
def readSingly (cs : List Char) : List Piece :=
  (read cs).flatMap Piece.singly

theorem text_singly (ps : List Piece) : text (ps.flatMap Piece.singly) = text ps := by
  rw [text, text, List.flatMap_assoc]
  congr 1
  funext piece
  cases piece <;> simp [Piece.singly, Piece.text]

theorem identify_singly (ps : List Piece) :
    identify (ps.flatMap Piece.singly) = (identify ps).flatMap Piece.singly := by
  rw [identify, identify, List.map_flatMap, List.flatMap_map]
  congr 1
  funext piece
  cases piece <;> rfl

theorem filterMap_name?_singly (ps : List Piece) :
    (ps.flatMap Piece.singly).filterMap Piece.name? = ps.filterMap Piece.name? := by
  rw [List.filterMap_flatMap, List.filterMap_eq_flatMap_toList]
  congr 1
  funext piece
  cases piece with
  | char | escaped => rfl
  | field name =>
      show [Piece.field name].filterMap Piece.name? = _
      rw [List.filterMap_eq_flatMap_toList, List.flatMap_singleton]

theorem readSingly_nil : readSingly [] = [] := by
  rw [readSingly, read, List.flatMap_nil]

theorem readSingly_open_open (cs : List Char) :
    readSingly ('\x7b' :: '\x7b' :: cs) = .char '\x7b' :: .char '\x7b' :: readSingly cs := by
  rw [readSingly, read_open_open]
  rfl

/-- **A closing brace means itself**, paired with the next or not. -/
theorem readSingly_close (cs : List Char) :
    readSingly ('\x7d' :: cs) = .char '\x7d' :: readSingly cs := by
  -- of a row of closing braces the first two are a pair, and then the third begins the row
  induction cs with
  | nil =>
      rw [readSingly, read_cons (by decide) (by simp)]
      rfl
  | cons c cs ih =>
      by_cases hc : c = '\x7d'
      · subst hc
        rw [ih, readSingly, read_close_close]
        rfl
      · rw [readSingly, read_cons (by decide) (by simpa using hc)]
        rfl

/-- A character that opens no field means itself. -/
theorem readSingly_cons {c : Char} (h : c ≠ '\x7b') (cs : List Char) :
    readSingly (c :: cs) = .char c :: readSingly cs := by
  by_cases hc : c = '\x7d'
  · rw [hc, readSingly_close]
  · rw [readSingly, read_cons h fun heq => absurd heq hc]
    rfl

theorem readSingly_append {cs : List Char} (h : '\x7b' ∉ cs) (rest : List Char) :
    readSingly (cs ++ rest) = cs.map .char ++ readSingly rest := by
  induction cs with
  | nil => rfl
  | cons c cs ih =>
      obtain ⟨hc, hcs⟩ := List.ne_and_not_mem_of_not_mem_cons h
      rw [List.cons_append, readSingly_cons hc.symm, ih hcs]
      rfl

theorem isNameChar_of_mem {name : FieldName} {c : Char} (h : c ∈ name.chars) :
    isNameChar c = true := by
  have hclose : c ≠ '\x7d' := fun heq => name.no_close (heq ▸ h)
  have hcolon : c ≠ ':' := fun heq => name.no_colon (heq ▸ h)
  simp [isNameChar, hclose, hcolon]

section

variable (format : Option Plain)

theorem open_notMem_formatText : '\x7b' ∉ formatText format := by
  cases format with
  | none => decide
  | some format => simp [formatText, format.no_open]

theorem exists_formatText_eq_cons :
    ∃ c cs, formatText format = c :: cs ∧ isNameChar c = false := by
  cases format with
  | none => exact ⟨'\x7d', _, rfl, rfl⟩
  | some format => exact ⟨':', _, rfl, rfl⟩

/-- A field's name is read as it was written, for no brace follows the first one and the name ends
where its format or the field does. -/
theorem readSingly_field (name : FieldName) (rest : List Char) :
    readSingly ('\x7b' :: (name.chars ++ (formatText format ++ rest))) =
      .field name.chars :: readSingly (formatText format ++ rest) := by
  obtain ⟨c, cs, hcons, hend⟩ := exists_formatText_eq_cons format
  have hne : name.chars ++ formatText format ≠ [] := by
    rw [hcons]
    exact List.append_ne_nil_of_right_ne_nil _ (List.cons_ne_nil c cs)
  have hopen : (name.chars ++ (formatText format ++ rest)).head? ≠ some '\x7b' := by
    intro h
    rw [← List.append_assoc, List.head?_append_of_ne_nil _ hne] at h
    rcases List.mem_append.mp (List.mem_of_head? h) with hmem | hmem
    · exact name.no_open hmem
    · exact open_notMem_formatText format hmem
  rw [readSingly, read_field (fun c => isNameChar_of_mem) hopen]
  · rfl
  · rw [hcons]
    simpa using hend

end

/-! ### Part by part -/

/-- The characters and fields of a part. -/
def Part.pieces : Part → List Piece
  | literal text      => text.chars.map .char
  | openBrace         => [.char '\x7b', .char '\x7b']
  | closeBrace        => [.char '\x7d', .char '\x7d']
  | field name format => .field name.chars :: (formatText format).map .char

theorem readSingly_part (part : Part) (rest : List Char) :
    readSingly (part.text ++ rest) = part.pieces ++ readSingly rest := by
  cases part with
  | literal text => exact readSingly_append text.no_open rest
  | openBrace => exact readSingly_open_open rest
  | closeBrace => exact readSingly_append (by decide) rest
  | field name format =>
      rw [Part.text, List.cons_append, List.append_assoc, readSingly_field,
        readSingly_append (open_notMem_formatText format)]
      rfl

/-- **A template that is made of parts is read part by part.** -/
theorem readSingly_parts (parts : List Part) :
    readSingly (parts.flatMap Part.text) = parts.flatMap Part.pieces := by
  induction parts with
  | nil => exact readSingly_nil
  | cons part parts ih => rw [List.flatMap_cons, readSingly_part, ih, List.flatMap_cons]

theorem text_map_char (cs : List Char) : text (cs.map .char) = cs := by
  rw [text, List.flatMap_map]
  exact List.flatMap_singleton' cs

theorem text_pieces (part : Part) : text part.pieces = part.text := by
  cases part with
  | literal text => exact text_map_char _
  | openBrace | closeBrace => rfl
  | field name format => exact congrArg (_ ++ ·) (text_map_char (formatText format))

theorem identify_map_char (cs : List Char) : identify (cs.map .char) = cs.map .char := by
  rw [identify, List.map_map]
  rfl

theorem isPosition_iff (name : FieldName) : isPosition name.chars = true ↔ name.IsPosition := by
  have hdigit : ∀ c : Char, decide ('0' ≤ c ∧ c ≤ '9') = c.isDigit := by
    intro c
    rw [Bool.decide_and]
    rfl
  simp [isPosition, FieldName.IsPosition, hdigit]

theorem identify_pieces (part : Part) : identify part.pieces = part.identify.pieces := by
  cases part with
  | literal text => exact identify_map_char _
  | openBrace | closeBrace => rfl
  | field name format =>
      have hname : (if isPosition name.chars then '_' :: name.chars else name.chars) =
          (if name.IsPosition then name.underscored else name).chars := by
        simp only [isPosition_iff]
        split <;> rfl
      rw [Part.pieces, identify, List.map_cons, Piece.identify, hname]
      exact congrArg (_ :: ·) (identify_map_char (formatText format))

theorem filterMap_name?_map_char (cs : List Char) :
    (cs.map .char).filterMap Piece.name? = [] := by
  simp [List.filterMap_eq_nil_iff, Piece.name?]

theorem map_name?_pieces (part : Part) :
    (part.pieces.filterMap Piece.name?).map String.ofList = part.name?.toList := by
  cases part with
  | literal text => rw [Part.pieces, filterMap_name?_map_char]; rfl
  | openBrace | closeBrace => rfl
  | field name format =>
      rw [Part.pieces, List.filterMap_cons, filterMap_name?_map_char]
      by_cases hname : name.chars = [] <;> simp [Piece.name?, Part.name?, hname]

theorem text_parts (parts : List Part) :
    text (parts.flatMap Part.pieces) = parts.flatMap Part.text := by
  rw [text, List.flatMap_assoc]
  congr 1
  funext part
  exact text_pieces part

theorem identify_parts (parts : List Part) :
    identify (parts.flatMap Part.pieces) = (parts.map Part.identify).flatMap Part.pieces := by
  rw [identify, List.map_flatMap, List.flatMap_map]
  congr 1
  funext part
  exact identify_pieces part

theorem map_name?_parts (parts : List Part) :
    ((parts.flatMap Part.pieces).filterMap Piece.name?).map String.ofList = namesIn parts := by
  rw [List.filterMap_flatMap, List.map_flatMap, namesIn, List.filterMap_eq_flatMap_toList]
  congr 1
  funext part
  exact map_name?_pieces part

/-- Whatever parts a template is made of, the names in them are the same. -/
theorem namesIn_congr {parts others : List Part} (h : ofParts parts = ofParts others) :
    namesIn parts = namesIn others := by
  rw [← map_name?_parts, ← readSingly_parts, String.ofList_injective h, readSingly_parts,
    map_name?_parts]

/-! ### Names that are listed once -/

section

variable {α β : Type} [BEq α] [LawfulBEq α] [BEq β] [LawfulBEq β]

theorem eraseDups_concat_of_mem {l : List α} {a : α} (h : a ∈ l) :
    (l ++ [a]).eraseDups = l.eraseDups := by
  rw [List.eraseDups_append]
  simp [List.removeAll, h]

theorem eraseDups_concat_of_notMem {l : List α} {a : α} (h : a ∉ l) :
    (l ++ [a]).eraseDups = l.eraseDups ++ [a] := by
  rw [List.eraseDups_append]
  simp [List.removeAll, h, List.eraseDups_cons]

theorem map_eraseDups {f : α → β} (hf : f.Injective) (l : List α) :
    l.eraseDups.map f = (l.map f).eraseDups := by
  induction l using List.reverseRecOn with
  | nil => rfl
  | append_singleton l a ih =>
      by_cases h : a ∈ l
      · rw [eraseDups_concat_of_mem h, ih, List.map_append, List.map_singleton,
          eraseDups_concat_of_mem (List.mem_map_of_mem h)]
      · have hmap : f a ∉ l.map f := by rwa [List.mem_map_of_injective hf]
        rw [eraseDups_concat_of_notMem h, List.map_append, ih, List.map_append,
          List.map_singleton, eraseDups_concat_of_notMem hmap]

/-- What is listed once is listed in order of first occurrence. -/
theorem pairwise_idxOf_eraseDups (l : List α) :
    l.eraseDups.Pairwise fun a b => l.idxOf a < l.idxOf b := by
  induction l using List.reverseRecOn with
  | nil => exact .nil
  | append_singleton l last ih =>
      have hbefore : l.eraseDups.Pairwise fun a b =>
          (l ++ [last]).idxOf a < (l ++ [last]).idxOf b := by
        refine ih.imp_of_mem fun ha hb hlt => ?_
        rwa [List.idxOf_append_of_mem (List.mem_eraseDups.mp ha),
          List.idxOf_append_of_mem (List.mem_eraseDups.mp hb)]
      by_cases h : last ∈ l
      · rwa [eraseDups_concat_of_mem h]
      · rw [eraseDups_concat_of_notMem h]
        refine List.pairwise_append.mpr ⟨hbefore, List.pairwise_singleton _ _, ?_⟩
        intro a ha b hb
        obtain rfl := List.mem_singleton.mp hb
        have hmem := List.mem_eraseDups.mp ha
        rw [List.idxOf_append_of_mem hmem, List.idxOf_append_of_notMem h]
        exact Nat.lt_add_right _ (List.idxOf_lt_length_of_mem hmem)

end

theorem listsOnce_eraseDups (all : List String) : ListsOnce all all.eraseDups where
  mem_iff _ := List.mem_eraseDups
  nodup := by
    refine (pairwise_idxOf_eraseDups all).imp fun {name later} hlt heq => ?_
    rw [heq] at hlt
    exact Nat.lt_irrefl _ hlt
  ordered := pairwise_idxOf_eraseDups all

/-! ### Resolving part by part -/

theorem singly_identify_read (parts : List Part) :
    (identify (read (parts.flatMap Part.text))).flatMap Piece.singly =
      (parts.map Part.identify).flatMap Part.pieces := by
  rw [← identify_singly, ← readSingly, readSingly_parts, identify_parts]

theorem map_names (ps : List Piece) :
    (names ps).map String.ofList = ((ps.filterMap Piece.name?).map String.ofList).eraseDups :=
  map_eraseDups (fun _ _ => String.ofList_injective) _

theorem resolve_ofParts (parts : List Part) :
    resolve (ofParts parts) =
      (ofParts (parts.map Part.identify), (namesIn (parts.map Part.identify)).eraseDups) := by
  rw [resolve, ofParts, String.toList_ofList, Prod.mk.injEq]
  constructor
  · rw [← text_singly, singly_identify_read, text_parts, ofParts]
  · rw [map_names, ← filterMap_name?_singly, singly_identify_read, map_name?_parts]

/-! ### Resolving again -/

/-- An underscore is no digit. -/
theorem isPosition_underscore (name : List Char) : isPosition ('_' :: name) = false :=
  rfl

theorem Piece.identify_identify (piece : Piece) : piece.identify.identify = piece.identify := by
  cases piece with
  | char | escaped => rfl
  | field name =>
      rw [Piece.identify]
      split
      · rw [Piece.identify, isPosition_underscore, if_neg Bool.false_ne_true]
      · next h => rw [Piece.identify, if_neg h]

theorem identify_identify (ps : List Piece) : identify (identify ps) = identify ps := by
  rw [identify, identify, List.map_map]
  exact List.map_congr_left fun piece _ => piece.identify_identify

/-- A field is read again with the name that it has been given. -/
theorem read_identify_field {name rest : List Char} (hname : ∀ c ∈ name, isNameChar c = true)
    (hopen : (name ++ rest).head? ≠ some '\x7b')
    (hrest : ∀ c ∈ rest.head?, isNameChar c = false) :
    read ((Piece.field name).identify.text ++ rest) =
      (Piece.field name).identify :: read rest := by
  rw [Piece.identify]
  split
  · have hunderscored : ∀ c ∈ '_' :: name, isNameChar c = true :=
      List.forall_mem_cons.mpr ⟨rfl, hname⟩
    exact read_field hunderscored (by simp) hrest
  · exact read_field hname hopen hrest

/-- A resolved text begins as the text did. -/
theorem head?_text_identify (cs : List Char) : (text (identify (read cs))).head? = cs.head? := by
  fun_cases read cs <;> rfl

/-- What a resolved text is cut into is the pieces that it was put together from. -/
theorem read_text_identify (cs : List Char) :
    read (text (identify (read cs))) = identify (read cs) := by
  -- what follows a piece begins as it did, so no brace gets or loses a partner, and no name its end
  fun_induction read cs with
  | case1 => rw [identify, text, List.map_nil, List.flatMap_nil, read]
  | case2 cs ih => exact (read_open_open _).trans (congrArg _ ih)
  | case3 cs ih => exact (read_close_close _).trans (congrArg _ ih)
  | case4 cs hopen hclose ih =>
      have hrest := head?_text_identify (cs.dropWhile isNameChar)
      have hbegins : (cs.takeWhile isNameChar ++
          text (identify (read (cs.dropWhile isNameChar)))).head? = cs.head? := by
        rw [List.head?_append, hrest, ← List.head?_append, List.takeWhile_append_dropWhile]
      have hfield : (cs.takeWhile isNameChar ++
          text (identify (read (cs.dropWhile isNameChar)))).head? ≠ some '\x7b' := by
        intro h
        rw [hbegins] at h
        obtain ⟨rest, rfl⟩ := List.head?_eq_some_iff.mp h
        exact hopen rest rfl rfl
      refine (read_identify_field (fun c => List.mem_takeWhile_imp) hfield ?_).trans
        (congrArg _ ih)
      intro c hc
      rw [hrest] at hc
      have hstop := List.head?_dropWhile_not isNameChar cs
      rwa [hc] at hstop
  | case5 c cs hopen hclose hc ih =>
      have hclose' : c = '\x7d' → (text (identify (read cs))).head? ≠ some '\x7d' := by
        rintro rfl h
        rw [head?_text_identify] at h
        obtain ⟨rest, rfl⟩ := List.head?_eq_some_iff.mp h
        exact hclose rest rfl rfl
      exact (read_cons hc hclose').trans (congrArg _ ih)

theorem resolve_resolve (template : String) :
    resolve (resolve template).1 = resolve template := by
  rw [resolve, resolve, String.toList_ofList, read_text_identify, identify_identify]

/-- **Only positions change in a template, and the names that come with it are those in it.**  A
template that is made of parts is resolved to the same parts, except that each position has got an
underscore.  Whatever parts the result is taken to be made of, the names in them are listed, each
once and in order of first occurrence.  Resolving it again changes nothing. -/
theorem fields_identified (parts : List Part) :
    (resolve (ofParts parts)).1 = ofParts (parts.map Part.identify) ∧
    (∀ resolved : List Part, (resolve (ofParts parts)).1 = ofParts resolved →
      ListsOnce (namesIn resolved) (resolve (ofParts parts)).2) ∧
    resolve (resolve (ofParts parts)).1 = resolve (ofParts parts) := by
  refine ⟨congrArg Prod.fst (resolve_ofParts parts), fun resolved h => ?_, resolve_resolve _⟩
  rw [resolve_ofParts] at h ⊢
  rw [← namesIn_congr h]
  exact listsOnce_eraseDups _

/-- The brace that closes the first field is paired with the next one, and the one after that stands
alone before a doubled brace; `_0` is listed once. -/
theorem fields_identified_paired_brace :
    let position : FieldName := ⟨⟨['0'], by decide, by decide⟩, by decide⟩
    let name : FieldName := ⟨⟨['l', 'e', 'n'], by decide, by decide⟩, by decide⟩
    let format : Plain := ⟨['?'], by decide, by decide⟩
    let parts : List Part := [.field position (some format), .closeBrace, .openBrace,
      .field name none, .field position none]
    let resolved := resolve (ofParts parts)
    ofParts parts = "\x7b0:?\x7d\x7d\x7d\x7b\x7b\x7blen\x7d\x7b0\x7d" ∧
    resolved.1 = "\x7b_0:?\x7d\x7d\x7d\x7b\x7b\x7blen\x7d\x7b_0\x7d" ∧
    resolved.2 = ["_0", "len"] ∧
    resolved.1 = ofParts (parts.map Part.identify) ∧
    ListsOnce ["_0", "len", "_0"] resolved.2 ∧
    resolve resolved.1 = resolved := by
  intro position name format parts resolved
  obtain ⟨hparts, hnames, hagain⟩ := fields_identified parts
  have htext : resolved.1 = "\x7b_0:?\x7d\x7d\x7d\x7b\x7b\x7blen\x7d\x7b_0\x7d" :=
    hparts.trans (by decide +kernel)
  have hlisted : resolved.2 = ["_0", "len"] := by
    decide +kernel
  have honce : ListsOnce ["_0", "len", "_0"] resolved.2 := hnames _ hparts
  exact ⟨by decide +kernel, htext, hlisted, hparts, honce, hagain⟩

end Template

end RegisterMachine
