import Mathlib.Data.List.Induction
import MotionJpeg.Proofs.Options.Rate

/-!
# The grammar of command lines

A command line is a row of items. Each is an option with the word after it, which may be any word,
or a word that stands for itself. What it asks for depends on the words of either kind in their own
order alone, and not on how the items stand among each other.

* `Options.Item` is the grammar, `Options.IsValid` says which rows of items are accepted.
* `Options.Means` is what a row of items asks for.
* `Options.withWords_wordsOf`: the items of a row are read one after the other.
* `Options.parse_exact`: exactly the valid rows of items are accepted, with what they mean, and
  their order does not matter.
-/

namespace MotionJpeg.Options

section Grammar

/-- A part of a command line. -/
inductive Item where
  /-- An option and the word after it, whatever that looks like. -/
  | setting (flag : Flag) (value : String)
  /-- A word that is not written like an option. -/
  | positional (word : String) (hword : isOption word = false)
  deriving DecidableEq

/-- The words of an item. -/
def Item.words : Item → List String
  | setting flag value => [flag.text, value]
  | positional word _ => [word]

/-- The word that stands for itself. -/
def Item.positional? : Item → Option String
  | setting .. => none
  | positional word _ => some word

/-- The value that an item gives to an option. -/
def Item.valueOf? (flag : Flag) : Item → Option String
  | setting other value => if other = flag then some value else none
  | positional .. => none

/-- The words of a row of items. -/
def wordsOf (items : List Item) : List String := items.flatMap Item.words

/-- The words that stand for themselves, in their order. -/
def positionals (items : List Item) : List String := items.filterMap Item.positional?

/-- The values of an option, in their order. -/
def values (flag : Flag) (items : List Item) : List String := items.filterMap (Item.valueOf? flag)

/-- Each item of a row can be read where it stands. -/
structure CanBeRead (items : List Item) : Prop where
  /-- There is a directory and an address, or less. -/
  length_positionals_le : (positionals items).length ≤ 2
  isAddress : ∀ word, (positionals items)[1]? = some word → (bindAddress? word).isSome = true
  /-- Every value for the rate is one, also if it does not count. -/
  isRate : ∀ value ∈ values .fps items, ∃ rate, IsRate value rate

/-- A row of items is accepted. -/
structure IsValid (items : List Item) : Prop extends CanBeRead items where
  /-- A certificate has a key, and a key a certificate. -/
  paired : values .cert items = [] ↔ values .key items = []

/-- A row of items asks for these options. Of several values for an option the last one counts. -/
structure Means (items : List Item) (options : Options) : Prop where
  imageDirectory_eq : options.imageDirectory = (positionals items)[0]?
  bindAddress_eq : options.bindAddress = (positionals items)[1]?.bind bindAddress?
  www_eq : options.www = (values .www items).getLast?
  auth_eq : options.auth = (values .auth items).getLast?
  cert_eq : options.cert = (values .cert items).getLast?
  key_eq : options.key = (values .key items).getLast?
  fps_eq : ∀ rate, options.fps = some rate ↔
    ∃ value, (values .fps items).getLast? = some value ∧ IsRate value rate

end Grammar

section Items

/-- An option is known by its text. -/
theorem ofText?_text (flag : Flag) : Flag.ofText? flag.text = some flag := by
  cases flag <;> decide +kernel

/-- The words that name options are those texts. -/
theorem eq_text_of_ofText? {word : String} {flag : Flag} (h : Flag.ofText? word = some flag) :
    word = flag.text := by
  have hfound := List.find?_some h
  rw [beq_iff_eq] at hfound
  exact hfound.symm

/-- A word that names an option is written like one. -/
theorem ofText?_eq_none {word : String} (h : isOption word = false) : Flag.ofText? word = none := by
  have hoption (flag : Flag) : isOption flag.text = true := by
    cases flag <;> decide +kernel
  cases hflag : Flag.ofText? word with
  | none => rfl
  | some flag =>
    rw [eq_text_of_ofText? hflag, hoption flag] at h
    cases h

/-- The options with one more item. -/
def withItem (options : Options) : Item → Except Fault Options
  | .setting flag value => options.withValue flag value
  | .positional word _ => options.withPositional word

/-- The words of an item are read together. -/
theorem withWords_words_append (options : Options) (item : Item) (rest : List String) :
    options.withWords (item.words ++ rest) =
      (options.withItem item).bind fun next => next.withWords rest := by
  cases item with
  | setting flag value =>
    show options.withWords (flag.text :: value :: rest) = _
    rw [withWords, ofText?_text, withItem]
    dsimp only
    cases options.withValue flag value <;> rfl
  | positional word hword =>
    show options.withWords (word :: rest) = _
    rw [withWords, ofText?_eq_none hword, withItem, hword]
    dsimp only
    cases options.withPositional word <;> rfl

/-- The items of a row are read one after the other. -/
theorem withWords_wordsOf (options : Options) (items : List Item) :
    options.withWords (wordsOf items) = items.foldlM withItem options := by
  induction items generalizing options with
  | nil => rfl
  | cons item items ih =>
    have hwords : wordsOf (item :: items) = item.words ++ wordsOf items := List.flatMap_cons
    rw [hwords, withWords_words_append, List.foldlM_cons]
    exact congrArg (Except.bind _) (funext ih)

/-- Whatever can be read is a row of items. -/
theorem exists_eq_wordsOf {options next : Options} {words : List String}
    (h : options.withWords words = .ok next) : ∃ items, words = wordsOf items := by
  -- Along the words, as they are read: each step takes the words of one item.
  induction options, words using withWords.induct with
  | case1 options => exact ⟨[], rfl⟩
  | case2 options word flag hflag =>
    rw [withWords, hflag] at h
    cases h
  | case3 options word flag hflag value rest later hvalue ih =>
    rw [withWords, hflag] at h
    simp only [hvalue] at h
    obtain ⟨items, rfl⟩ := ih h
    refine ⟨.setting flag value :: items, ?_⟩
    rw [eq_text_of_ofText? hflag]
    rfl
  | case4 options word flag hflag value rest fault hvalue =>
    rw [withWords, hflag] at h
    simp only [hvalue] at h
    cases h
  | case5 options word rest hflag hword =>
    rw [withWords, hflag] at h
    simp only [hword, if_true] at h
    cases h
  | case6 options word rest hflag hword later hpositional ih =>
    rw [withWords, hflag] at h
    simp only [hword, hpositional] at h
    obtain ⟨items, rfl⟩ := ih h
    exact ⟨.positional word (Bool.not_eq_true _ ▸ hword) :: items, rfl⟩
  | case7 options word rest hflag hword fault hpositional =>
    rw [withWords, hflag] at h
    simp only [hword, hpositional] at h
    cases h

end Items

section Meaning

/-- What a row of items asks for. -/
def ofItems (items : List Item) : Options where
  imageDirectory := (positionals items)[0]?
  bindAddress := (positionals items)[1]?.bind bindAddress?
  www := (values .www items).getLast?
  auth := (values .auth items).getLast?
  cert := (values .cert items).getLast?
  key := (values .key items).getLast?
  fps := (values .fps items).getLast?.bind fps?

theorem means_ofItems (items : List Item) : Means items (ofItems items) where
  imageDirectory_eq := rfl
  bindAddress_eq := rfl
  www_eq := rfl
  auth_eq := rfl
  cert_eq := rfl
  key_eq := rfl
  fps_eq rate := by
    rw [ofItems, Option.bind_eq_some_iff]
    simp only [fps?_eq_some_iff]

variable {items : List Item}

/-- One more item adds its word, if that stands for itself. -/
theorem positionals_concat (items : List Item) (item : Item) :
    positionals (items ++ [item]) = positionals items ++ item.positional?.toList := by
  rw [positionals, List.filterMap_append]
  cases item <;> rfl

/-- One more item adds its value to those of its option. -/
theorem values_concat (flag : Flag) (items : List Item) (item : Item) :
    values flag (items ++ [item]) = values flag items ++ (item.valueOf? flag).toList := by
  rw [values, List.filterMap_append]
  cases hvalue : item.valueOf? flag <;> simp [values, hvalue]

/-- A word that stands for itself comes after those before it. -/
theorem positionals_concat_positional (items : List Item) {word : String}
    {hword : isOption word = false} :
    positionals (items ++ [.positional word hword]) = positionals items ++ [word] := by
  rw [positionals_concat]
  rfl

/-- A word that stands for itself is no value of an option. -/
theorem values_concat_positional (flag : Flag) (items : List Item) {word : String}
    {hword : isOption word = false} :
    values flag (items ++ [.positional word hword]) = values flag items := by
  rw [values_concat]
  exact List.append_nil _

/-- A row can be read with an option more if it can be read without, and if the value for a rate is
one. -/
theorem canBeRead_setting_iff {flag : Flag} {value : String} :
    CanBeRead (items ++ [.setting flag value]) ↔
      CanBeRead items ∧ (flag = .fps → (fps? value).isSome = true) := by
  have hpositionals : positionals (items ++ [.setting flag value]) = positionals items := by
    rw [positionals_concat]
    exact List.append_nil _
  have hrate : (fps? value).isSome = true ↔ ∃ rate, IsRate value rate := by
    simp only [Option.isSome_iff_exists, fps?_eq_some_iff]
  rw [hrate]
  constructor
  · intro h
    refine ⟨⟨hpositionals ▸ h.length_positionals_le, hpositionals ▸ h.isAddress, ?_⟩, ?_⟩
    · intro other hother
      apply h.isRate
      rw [values_concat]
      exact List.mem_append_left _ hother
    · rintro rfl
      apply h.isRate
      rw [values_concat]
      exact List.mem_append_right _ List.mem_cons_self
  · rintro ⟨h, hvalue⟩
    refine ⟨hpositionals ▸ h.length_positionals_le, hpositionals ▸ h.isAddress, ?_⟩
    intro other hother
    rw [values_concat] at hother
    rcases List.mem_append.mp hother with hother | hother
    · exact h.isRate other hother
    · -- The only value that is new is that of a rate.
      rw [Item.valueOf?] at hother
      split at hother
      next hflag =>
        rw [List.mem_singleton.mp hother]
        exact hvalue hflag
      next => cases hother

/-- A row can be read with a word more if it had none, or one and the new one is an address. -/
theorem canBeRead_positional_iff {word : String} {hword : isOption word = false} :
    CanBeRead (items ++ [.positional word hword]) ↔ CanBeRead items ∧
      (positionals items = [] ∨
        ∃ directory, positionals items = [directory] ∧ (bindAddress? word).isSome = true) := by
  constructor
  · rintro ⟨hlength, haddress, hrate⟩
    rw [positionals_concat_positional] at hlength haddress
    rw [values_concat_positional] at hrate
    -- What stands in the row already decides which place the word takes.
    match hrow : positionals items with
    | [] => exact ⟨⟨by simp [hrow], by simp [hrow], hrate⟩, .inl rfl⟩
    | [directory] =>
      rw [hrow] at haddress
      exact ⟨⟨by simp [hrow], by simp [hrow], hrate⟩, .inr ⟨directory, rfl, haddress word rfl⟩⟩
    | directory :: address :: others =>
      rw [hrow, List.length_append] at hlength
      simp at hlength
  · rintro ⟨h, hrow⟩
    refine ⟨?_, ?_, values_concat_positional .fps items ▸ h.isRate⟩
    · rw [positionals_concat_positional]
      rcases hrow with hrow | ⟨directory, hrow, -⟩ <;> simp [hrow]
    · rw [positionals_concat_positional]
      rcases hrow with hrow | ⟨directory, hrow, haddress⟩
      · simp [hrow]
      · simp [hrow, haddress]

/-- What can be read before an item can be read after it. -/
theorem CanBeRead.of_concat {item : Item} (h : CanBeRead (items ++ [item])) : CanBeRead items := by
  cases item with
  | setting flag value => exact (canBeRead_setting_iff.mp h).1
  | positional word hword => exact (canBeRead_positional_iff.mp h).1

/-- A value of an option counts from then on. -/
theorem withItem_setting {flag : Flag} {value : String}
    (h : flag = .fps → (fps? value).isSome = true) :
    (ofItems items).withItem (.setting flag value) =
      .ok (ofItems (items ++ [.setting flag value])) := by
  cases flag with
  | www | auth | cert | key =>
    simp [withItem, withValue, ofItems, positionals_concat, values_concat, Item.positional?,
      Item.valueOf?]
  | fps =>
    obtain ⟨rate, hrate⟩ := Option.isSome_iff_exists.mp (h rfl)
    simp [withItem, withValue, ofItems, positionals_concat, values_concat, Item.positional?,
      Item.valueOf?, hrate]

/-- A word takes the first place that is free, and the second place takes addresses only. -/
theorem withItem_positional (hread : CanBeRead items) {word : String}
    {hword : isOption word = false} :
    (ofItems items).withItem (.positional word hword) =
      match positionals items with
      | [] => .ok (ofItems (items ++ [.positional word hword]))
      | [_] =>
        if (bindAddress? word).isSome then .ok (ofItems (items ++ [.positional word hword]))
        else .error (.invalidBindAddress word)
      | _ :: _ :: _ => .error (.unexpectedArgument word) := by
  rw [withItem, withPositional, ofItems, ofItems]
  simp only [positionals_concat_positional, values_concat_positional]
  have haddress := hread.isAddress
  match hrow : positionals items with
  | [] => rfl
  | [directory] =>
    cases hbind : bindAddress? word with
    | none => simp
    | some address => simp [hbind]
  | directory :: address :: others =>
    -- The second place is taken, as its word is an address.
    rw [hrow] at haddress
    obtain ⟨bound, hbound⟩ := Option.isSome_iff_exists.mp (haddress address rfl)
    simp [hbound]

/-- An item is taken if the row can be read with it. -/
theorem withItem_ofItems_eq_ok_iff (hread : CanBeRead items) {item : Item} {next : Options} :
    (ofItems items).withItem item = .ok next ↔
      CanBeRead (items ++ [item]) ∧ next = ofItems (items ++ [item]) := by
  cases item with
  | setting flag value =>
    rw [canBeRead_setting_iff]
    by_cases hvalue : flag = .fps → (fps? value).isSome = true
    · rw [withItem_setting hvalue, Except.ok.injEq, eq_comm]
      exact ⟨fun hnext => ⟨⟨hread, hvalue⟩, hnext⟩, fun h => h.2⟩
    · refine iff_of_false ?_ fun h => hvalue h.1.2
      rw [Classical.not_imp, Bool.not_eq_true, Option.isSome_eq_false_iff,
        Option.isNone_iff_eq_none] at hvalue
      obtain ⟨rfl, hnone⟩ := hvalue
      simp [withItem, withValue, hnone]
  | positional word hword =>
    rw [canBeRead_positional_iff, withItem_positional hread]
    match hrow : positionals items with
    | [] =>
      dsimp only
      rw [Except.ok.injEq, eq_comm]
      exact ⟨fun hnext => ⟨⟨hread, .inl rfl⟩, hnext⟩, fun h => h.2⟩
    | [directory] =>
      by_cases haddress : (bindAddress? word).isSome = true
      · dsimp only
        rw [if_pos haddress, Except.ok.injEq, eq_comm]
        exact ⟨fun hnext => ⟨⟨hread, .inr ⟨directory, rfl, haddress⟩⟩, hnext⟩, fun h => h.2⟩
      · simp [haddress]
    | directory :: address :: others => simp

/-- The items of a row can be read one after the other if the row can be read, and come to what it
asks for. -/
theorem foldlM_withItem_eq_ok_iff {next : Options} :
    items.foldlM withItem {} = .ok next ↔ CanBeRead items ∧ next = ofItems items := by
  -- Induction from the end, as what was read before an item decides what becomes of it.
  induction items using List.reverseRecOn generalizing next with
  | nil =>
    have hread : CanBeRead [] := ⟨Nat.zero_le _, by simp [positionals], by simp [values]⟩
    show Except.ok {} = Except.ok next ↔ _
    rw [Except.ok.injEq, eq_comm]
    exact ⟨fun hnext => ⟨hread, hnext⟩, fun h => h.2⟩
  | append_singleton items item ih =>
    have hlast : (items ++ [item]).foldlM withItem {} =
        (items.foldlM withItem {}).bind fun options => options.withItem item := by
      rw [List.foldlM_append]
      exact congrArg (Except.bind _) (funext fun options => bind_pure _)
    rw [hlast]
    constructor
    · intro h
      cases hitems : items.foldlM withItem {} with
      | error fault =>
        rw [hitems] at h
        cases h
      | ok options =>
        obtain ⟨hread, rfl⟩ := ih.mp hitems
        rw [hitems] at h
        exact (withItem_ofItems_eq_ok_iff hread).mp h
    · rintro ⟨hread, rfl⟩
      rw [ih.mpr ⟨hread.of_concat, rfl⟩]
      exact (withItem_ofItems_eq_ok_iff hread.of_concat).mpr ⟨hread, rfl⟩

end Meaning

section Parse

variable {items others : List Item}

/-- That a certificate goes with a key is looked at when all words are read. -/
theorem parse_eq (words : List String) : parse words =
    (withWords {} words).bind fun options =>
      if options.cert.isSome = options.key.isSome then .ok options
      else .error .unpairedTlsFile := by
  rw [parse]
  cases withWords {} words with
  | error fault => rfl
  | ok options =>
    show (if options.cert.isSome != options.key.isSome then _ else _) = if _ then _ else _
    by_cases hpaired : options.cert.isSome = options.key.isSome
    · rw [if_pos hpaired, hpaired, bne_self_eq_false]
      rfl
    · rw [if_neg hpaired, if_pos (bne_iff_ne.mpr hpaired)]
      rfl

/-- A certificate is asked for together with a key if both have values. -/
theorem isSome_cert_eq_iff : (ofItems items).cert.isSome = (ofItems items).key.isSome ↔
    (values .cert items = [] ↔ values .key items = []) := by
  show (values .cert items).getLast?.isSome = (values .key items).getLast?.isSome ↔ _
  rw [Bool.eq_iff_iff, List.getLast?_isSome, List.getLast?_isSome]
  exact not_iff_not

/-- A row of items is accepted as a command line if it is valid. -/
theorem parse_wordsOf_eq_ok_iff {options : Options} :
    parse (wordsOf items) = .ok options ↔ IsValid items ∧ options = ofItems items := by
  rw [parse_eq, withWords_wordsOf]
  constructor
  · intro h
    cases hitems : items.foldlM withItem {} with
    | error fault =>
      rw [hitems] at h
      cases h
    | ok read =>
      obtain ⟨hread, rfl⟩ := foldlM_withItem_eq_ok_iff.mp hitems
      rw [hitems, Except.bind] at h
      split at h
      next hpaired =>
        cases h
        exact ⟨⟨hread, isSome_cert_eq_iff.mp hpaired⟩, rfl⟩
      next => cases h
  · rintro ⟨hvalid, rfl⟩
    rw [foldlM_withItem_eq_ok_iff.mpr ⟨hvalid.toCanBeRead, rfl⟩, Except.bind,
      if_pos (isSome_cert_eq_iff.mpr hvalid.paired)]

/-- Every command line that is accepted is a row of items. -/
theorem exists_wordsOf_of_parse {words : List String} {options : Options}
    (h : parse words = .ok options) : ∃ items, words = wordsOf items := by
  rw [parse_eq] at h
  cases hwords : withWords {} words with
  | error fault =>
    rw [hwords] at h
    cases h
  | ok read => exact exists_eq_wordsOf hwords

/-- Whether a row is valid is told by its words in their own order. -/
theorem IsValid.congr (h : IsValid items) (hpositionals : positionals items = positionals others)
    (hvalues : ∀ flag, values flag items = values flag others) : IsValid others where
  length_positionals_le := hpositionals ▸ h.length_positionals_le
  isAddress := hpositionals ▸ h.isAddress
  isRate := hvalues .fps ▸ h.isRate
  paired := hvalues .cert ▸ hvalues .key ▸ h.paired

/-- A row is accepted if another one with the same words in their own order is, and asks for the
same. -/
theorem parse_wordsOf_congr (hpositionals : positionals items = positionals others)
    (hvalues : ∀ flag, values flag items = values flag others) {options : Options}
    (h : parse (wordsOf items) = .ok options) : parse (wordsOf others) = .ok options := by
  obtain ⟨hvalid, rfl⟩ := parse_wordsOf_eq_ok_iff.mp h
  rw [parse_wordsOf_eq_ok_iff]
  refine ⟨hvalid.congr hpositionals hvalues, ?_⟩
  rw [ofItems, ofItems]
  simp only [hpositionals, hvalues]

end Parse

/-- A command line is accepted exactly if it is a row of items of which at most two stand for
themselves, the second of these an address, with rates wherever one is set, and with a certificate
and a key or neither. The first of the two is the directory, and of several values for an option the
last one counts. Items in another order ask for the same and are accepted as well, as long as the
words that stand for themselves keep their order, and so do the values of each option. -/
theorem parse_exact :
    (∀ words, (∃ options, parse words = .ok options) ↔
      ∃ items, words = wordsOf items ∧ IsValid items) ∧
    (∀ items options, parse (wordsOf items) = .ok options → Means items options) ∧
    (∀ items others, positionals items = positionals others →
      (∀ flag, values flag items = values flag others) →
      (parse (wordsOf items)).toOption = (parse (wordsOf others)).toOption) := by
  refine ⟨?_, ?_, ?_⟩
  · intro words
    constructor
    · rintro ⟨options, h⟩
      obtain ⟨items, rfl⟩ := exists_wordsOf_of_parse h
      exact ⟨items, rfl, (parse_wordsOf_eq_ok_iff.mp h).1⟩
    · rintro ⟨items, rfl, hvalid⟩
      exact ⟨ofItems items, parse_wordsOf_eq_ok_iff.mpr ⟨hvalid, rfl⟩⟩
  · intro items options h
    rw [(parse_wordsOf_eq_ok_iff.mp h).2]
    exact means_ofItems items
  · intro items others hpositionals hvalues
    -- Either row is accepted if the other one is.
    cases hitems : parse (wordsOf items) with
    | ok options => rw [parse_wordsOf_congr hpositionals hvalues hitems]
    | error fault =>
      cases hothers : parse (wordsOf others) with
      | error fault => rfl
      | ok options =>
        have hback :=
          parse_wordsOf_congr hpositionals.symm (fun flag => (hvalues flag).symm) hothers
        rw [hitems] at hback
        cases hback

section Reordered

/-- A command line with its words at the end. The value of `--www` looks like an option. -/
def optionsFirst : List Item := [
  .setting .fps "+15", .setting .www "--auth", .setting .fps "07", .setting .cert "c.pem",
  .setting .key "k.pem", .positional "frames" (by decide +kernel),
  .positional "localhost:9000" (by decide +kernel)]

/-- The same items with the words at the front and the options in another order. -/
def wordsFirst : List Item := [
  .positional "frames" (by decide +kernel), .setting .key "k.pem", .setting .fps "+15",
  .positional "localhost:9000" (by decide +kernel), .setting .fps "07", .setting .cert "c.pem",
  .setting .www "--auth"]

/-- Both command lines are accepted and ask for the same. -/
theorem parse_exact_reordered :
    let options : Options :=
      { imageDirectory := some "frames", bindAddress := some (.v4 .loopback 9000)
        www := some "--auth", cert := some "c.pem", key := some "k.pem", fps := some 7 }
    wordsOf wordsFirst = [
      "frames", "--key", "k.pem", "--fps", "+15", "localhost:9000", "--fps", "07", "--cert",
      "c.pem", "--www", "--auth"] ∧
    parse (wordsOf wordsFirst) = .ok options ∧
    (∃ items, wordsOf wordsFirst = wordsOf items ∧ IsValid items) ∧ Means wordsFirst options ∧
    positionals wordsFirst = positionals optionsFirst ∧
    (∀ flag, values flag wordsFirst = values flag optionsFirst) ∧
    (parse (wordsOf wordsFirst)).toOption = (parse (wordsOf optionsFirst)).toOption := by
  intro options
  obtain ⟨haccepts, hmeans, horder⟩ := parse_exact
  have hparse : parse (wordsOf wordsFirst) = .ok options := by decide +kernel
  have hpositionals : positionals wordsFirst = positionals optionsFirst := by decide +kernel
  have hvalues (flag : Flag) : values flag wordsFirst = values flag optionsFirst := by
    cases flag <;> decide +kernel
  exact ⟨by decide +kernel, hparse, (haccepts _).mp ⟨options, hparse⟩, hmeans _ _ hparse,
    hpositionals, hvalues, horder _ _ hpositionals hvalues⟩

end Reordered

end MotionJpeg.Options
