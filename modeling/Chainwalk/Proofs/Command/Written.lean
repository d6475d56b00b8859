import Chainwalk.Command.Basic
import Chainwalk.Proofs.Text.Elements

/-!
# Commands as they are written

A command is written as a line: the slash and one of its names, then its target and its tokens, each
in quotes, with a space before each of them. Quotes keep blanks and everything else that is between
them, so the line is cut into the words that it was written from, and these stand for the command.
Only quotes themselves, and a target of some kind that says nothing, cannot be written; and they are
in no command that is read from a line.

* `Words.cut_line`: quoted words are cut apart as they are;
* `Words.not_mem_of_cut`: there is no quote in a word that is cut out of a line;
* `Target.parse_text`, `Target.payload_of_parse`: targets as words, and words as targets;
* `Command.writable_of_parse`: what is read from a line can be written;
* `Command.parse_written_eq_ok_iff`: what can be written is read back, and nothing else.
-/

namespace Chainwalk

namespace Words

/-! ## Words in quotes -/

/-- A word as it is written. -/
def wrap (w : String) : String := "\"" ++ w ++ "\""

/-- A line that begins with a bare word, with words in quotes after it. -/
def line (first : String) (words : List String) : String :=
  " ".intercalate (first :: words.map wrap)

/-- The quoted words of a line, each with the space before it. -/
def quotedTail (words : List (List Char)) : List Char :=
  words.flatMap fun w => ' ' :: '"' :: (w ++ ['"'])

theorem toList_line (first : String) (words : List String) :
    (line first words).toList = first.toList ++ quotedTail (words.map String.toList) := by
  rw [line, String.toList_intercalate]
  induction words generalizing first with
  | nil => simp [quotedTail]
  | cons w words ih =>
    have hrest := ih (wrap w)
    rw [List.map_cons] at hrest
    rw [List.map_cons, List.map_cons, List.map_cons, List.intercalate_cons_cons, hrest, wrap]
    simp [quotedTail]

variable {w cs : List Char} {current : Option (List Char)}

/-- Between quotes all characters belong to the word. -/
theorem cutFrom_quoted (hw : '"' ∉ w) (begun rest : List Char) :
    cutFrom true (some begun) (w ++ '"' :: rest) =
      cutFrom false (some (w.reverse ++ begun)) rest := by
  induction w generalizing begun with
  | nil => simp [cutFrom]
  | cons c w ih =>
    rw [List.mem_cons, not_or] at hw
    rw [List.cons_append, cutFrom, if_neg (Ne.symm hw.1), Bool.not_true, Bool.and_false,
      if_neg Bool.false_ne_true, Option.getD_some, ih hw.2, List.reverse_cons, List.append_assoc,
      List.singleton_append]

/-- A bare word goes on up to the next blank. -/
theorem cutFrom_bare (hquote : '"' ∉ w) (hblank : ∀ c ∈ w, ¬Text.isBlank c)
    (begun rest : List Char) :
    cutFrom false (some begun) (w ++ rest) = cutFrom false (some (w.reverse ++ begun)) rest := by
  induction w generalizing begun with
  | nil => rfl
  | cons c w ih =>
    rw [List.mem_cons, not_or] at hquote
    rw [List.forall_mem_cons] at hblank
    rw [List.cons_append, cutFrom, if_neg (Ne.symm hquote.1), Bool.not_false, Bool.and_true,
      if_neg hblank.1, Option.getD_some, ih hquote.2 hblank.2, List.reverse_cons,
      List.append_assoc, List.singleton_append]

theorem cutFrom_quotedTail {words : List (List Char)} (hwords : ∀ w ∈ words, '"' ∉ w)
    (begun : List Char) :
    cutFrom false (some begun) (quotedTail words) = some (begun.reverse :: words) := by
  induction words generalizing begun with
  | nil => rfl
  | cons w words ih =>
    rw [List.forall_mem_cons] at hwords
    -- The blank ends the word that was begun, and the quote after it begins the next one.
    have hblank : Text.isBlank ' ' = true := by decide
    have hopen : cutFrom false none ('"' :: (w ++ '"' :: quotedTail words)) =
        cutFrom true (some []) (w ++ '"' :: quotedTail words) := rfl
    have htail : quotedTail (w :: words) = ' ' :: '"' :: (w ++ '"' :: quotedTail words) := by
      simp [quotedTail]
    rw [htail, cutFrom, if_neg (by decide), hblank, Bool.not_false, Bool.and_true, if_pos rfl,
      hopen, cutFrom_quoted hwords.1, ih hwords.2, Option.map_some, List.append_nil,
      List.reverse_reverse]

/-- Quoted words are cut apart as they are. -/
theorem cut_line {first : List Char} (hne : first ≠ []) (hquote : '"' ∉ first)
    (hblank : ∀ c ∈ first, ¬Text.isBlank c) {words : List (List Char)}
    (hwords : ∀ w ∈ words, '"' ∉ w) :
    cut (first ++ quotedTail words) = some (first :: words) := by
  rcases first with _ | ⟨c, first⟩
  · contradiction
  · have hall := cutFrom_bare hquote hblank [] (quotedTail words)
    rw [List.mem_cons, not_or] at hquote
    rw [List.forall_mem_cons] at hblank
    -- The first character begins the word, whether one has been begun or not.
    have hbegin : cut (c :: first ++ quotedTail words) =
        cutFrom false (some []) (c :: first ++ quotedTail words) := by
      rw [cut, List.cons_append, cutFrom, cutFrom, if_neg (Ne.symm hquote.1),
        if_neg (Ne.symm hquote.1), Bool.not_false, Bool.and_true, if_neg hblank.1,
        if_neg hblank.1, Option.getD_none, Option.getD_some]
    rw [hbegin, hall, cutFrom_quotedTail hwords, List.append_nil, List.reverse_reverse]

/-- A line with a bare word at the front has no blanks at its ends. -/
theorem trim_line {first : String} (hne : first.toList ≠ [])
    (hblank : ∀ d ∈ first.toList, ¬Text.isBlank d) (words : List String) :
    Text.trim (line first words) = line first words := by
  rw [← String.toList_inj, Text.toList_trim, toList_line]
  rcases List.eq_nil_or_concat (words.map String.toList) with hnil | ⟨init, last, hlast⟩
  · rw [hnil]
    exact (congrArg Text.trimmed (List.append_nil _)).trans
      ((Text.trimmed_of_forall hblank).trans (List.append_nil _).symm)
  · -- The line begins with the word and ends with a quote.
    obtain ⟨c, rest, hfirst⟩ := List.exists_cons_of_ne_nil hne
    have hends : first.toList ++ quotedTail (words.map String.toList) =
        c :: ((rest ++ quotedTail init ++ ' ' :: '"' :: last) ++ ['"']) := by
      rw [hlast, hfirst]
      simp [quotedTail]
    rw [hends]
    exact Text.trimmed_of_not_isBlank (hblank c (hfirst ▸ List.mem_cons_self)) (by decide) _

/-- Quotes are not part of words. -/
theorem not_mem_of_cutFrom {quoted : Bool} {words : List (List Char)}
    (h : cutFrom quoted current cs = some words) (hcurrent : ∀ begun ∈ current, '"' ∉ begun) :
    ∀ w ∈ words, '"' ∉ w := by
  fun_induction cutFrom quoted current cs generalizing words with
  | case1 => cases h
  | case2 => cases h; simp
  | case3 begun => cases h; simpa using hcurrent
  | case4 quoted current cs ih =>
    refine ih h fun begun hbegun => ?_
    cases hbegun
    rcases current with _ | begun
    · exact List.not_mem_nil
    · exact hcurrent begun rfl
  | case5 quoted c cs _ _ ih => exact ih h hcurrent
  | case6 quoted c cs _ _ begun ih =>
    obtain ⟨rest, hrest, rfl⟩ := Option.map_eq_some_iff.1 h
    refine List.forall_mem_cons.2 ⟨by simpa using hcurrent, ih hrest ?_⟩
    exact fun _ hnone => by cases hnone
  | case7 quoted current c cs hc _ ih =>
    refine ih h fun begun hbegun => ?_
    cases hbegun
    rw [List.mem_cons, not_or]
    refine ⟨Ne.symm hc, ?_⟩
    rcases current with _ | begun
    · exact List.not_mem_nil
    · exact hcurrent begun rfl

/-- There is no quote in a word that is cut out of a line. -/
theorem not_mem_of_cut {words : List (List Char)} (h : cut cs = some words) :
    ∀ w ∈ words, '"' ∉ w :=
  not_mem_of_cutFrom h fun _ hnone => by cases hnone

theorem not_mem_of_ofLine? {text : String} {words : List String} (h : ofLine? text = some words) :
    ∀ w ∈ words, '"' ∉ w.toList := by
  obtain ⟨cut, hcut, rfl⟩ := Option.map_eq_some_iff.1 h
  refine List.forall_mem_map.2 fun w hw => ?_
  rw [String.toList_ofList]
  exact not_mem_of_cut hcut w hw

end Words

/-! ## Targets -/

namespace Text

theorem toList_lowerAscii (s : String) : (lowerAscii s).toList = s.toList.map Char.toLower := by
  rw [lowerAscii, String.toList_ofList]

/-- A text is cut at the first separator. -/
theorem cutOnce_append {sep : Char} {before : String} (hbefore : sep ∉ before.toList)
    (after : String) :
    cutOnce sep (before ++ String.singleton sep ++ after) = some (before, after) := by
  have hne : ∀ c ∈ before.toList, (c != sep) = true := by
    intro c hc
    rw [bne_iff_ne]
    rintro rfl
    exact hbefore hc
  have hlist : (before ++ String.singleton sep ++ after).toList =
      before.toList ++ sep :: after.toList := by
    simp
  rw [cutOnce, hlist, List.dropWhile_append_of_pos hne, List.takeWhile_append_of_pos hne,
    List.dropWhile_cons_of_neg (by simp), List.takeWhile_cons_of_neg (by simp)]
  simp

/-- What is cut off stands in the text. -/
theorem subset_of_cutOnce {sep : Char} {word kind value : String}
    (h : cutOnce sep word = some (kind, value)) : value.toList ⊆ word.toList := by
  rw [cutOnce] at h
  split at h
  · cases h
  · rename_i after hafter
    cases h
    rw [String.toList_ofList]
    intro c hc
    exact (List.dropWhile_sublist _).subset (hafter ▸ List.mem_cons_of_mem _ hc)

end Text

namespace Target

/-- What is left to say of a target of some kind. -/
def payload? : Target → Option String
  | sender | server => none
  | player payload | world payload | entity payload | block payload => some payload

/-- A word with a colon in it is a kind and what is said of it. -/
theorem parse_kind (kind : String) {payload : String} (hkind : ':' ∉ kind.toList)
    (hpayload : payload ≠ "") :
    parse (kind ++ ":" ++ payload) =
      let k := Text.lowerAscii kind
      if k = "player" || k = "p" then .ok (player payload)
      else if k = "world" || k = "w" then .ok (world payload)
      else if k = "entity" || k = "e" then .ok (entity payload)
      else if k = "block" || k = "b" then .ok (block payload)
      else .error (.unknownTargetKind kind) := by
  -- None of the other words for targets has a colon.
  have hcolon : ':' ∈ (Text.lowerAscii (kind ++ ":" ++ payload)).toList := by
    rw [Text.toList_lowerAscii]
    exact List.mem_map.2 ⟨':', by simp, rfl⟩
  have hne (word : String) (hword : ':' ∉ word.toList) :
      Text.lowerAscii (kind ++ ":" ++ payload) ≠ word := by
    rintro heq
    exact hword (heq ▸ hcolon)
  have hcut : Text.cutOnce ':' (kind ++ ":" ++ payload) = some (kind, payload) :=
    Text.cutOnce_append hkind payload
  rw [parse, hcut]
  simp [hne "self" (by decide), hne "me" (by decide), hne "server" (by decide), hpayload]

/-- A target is read back if something is said of it. -/
theorem parse_text {t : Target} (ht : ∀ payload ∈ t.payload?, payload ≠ "") :
    parse t.text = .ok t := by
  cases t with
  | sender | server => rfl
  | player payload => exact parse_kind "player" (by decide) (ht payload rfl)
  | world payload => exact parse_kind "world" (by decide) (ht payload rfl)
  | entity payload => exact parse_kind "entity" (by decide) (ht payload rfl)
  | block payload => exact parse_kind "block" (by decide) (ht payload rfl)

/-- What is said of a target that is read stands in the word. -/
theorem payload_of_parse {word : String} {t : Target} (h : parse word = .ok t) :
    ∀ payload ∈ t.payload?, payload ≠ "" ∧ payload.toList ⊆ word.toList := by
  rw [parse] at h
  dsimp only at h
  split at h
  · cases h; exact fun _ hnone => by cases hnone
  split at h
  · cases h; exact fun _ hnone => by cases hnone
  rcases hcut : Text.cutOnce ':' word with _ | ⟨kind, value⟩
  · rw [hcut] at h
    cases h
  rw [hcut] at h
  dsimp only at h
  split at h
  · cases h
  rename_i hne
  have hvalue : value ≠ "" ∧ value.toList ⊆ word.toList :=
    ⟨by simpa using hne, Text.subset_of_cutOnce hcut⟩
  -- Whatever the kind is, this is what is said.
  have hpayload : t.payload? = some value := by
    split at h
    · cases h; rfl
    split at h
    · cases h; rfl
    split at h
    · cases h; rfl
    split at h
    · cases h; rfl
    · cases h
  intro payload hp
  rw [hpayload] at hp
  exact Option.some.inj hp ▸ hvalue

end Target

/-! ## Commands -/

namespace Command

/-- The names of a command. -/
def names : Command → List String
  | help => ["help", "?"]
  | chain _ _ => ["chain", "c"]
  | methods _ _ => ["methods", "m"]
  | inspect _ => ["inspect", "i"]
  | reload => ["reload"]

/-- The target of a command. -/
def target? : Command → Option Target
  | help | reload => none
  | chain target _ | methods target _ | inspect target => some target

/-- What stands behind the target of a command. -/
def tokens : Command → List String
  | chain _ tokens => tokens
  | methods _ start => start.toList
  | help | reload | inspect _ => []

/-- The words of a command, its name apart. -/
def args (c : Command) : List String := (c.target?.map Target.text).toList ++ c.tokens

/-- A command as it is written, by one of its names. -/
def written (c : Command) (name : String) : String := Words.line ("/" ++ name) c.args

/-- Whether a command can be written: it has a target that something is said of, if it is of a kind
    of which something must be said, and there are no quotes in what is said and in the tokens. -/
structure Writable (c : Command) : Prop where
  target : ∀ t ∈ c.target?, ∀ payload ∈ t.payload?, payload ≠ "" ∧ '"' ∉ payload.toList
  tokens : ∀ token ∈ c.tokens, '"' ∉ token.toList

variable {c : Command}

/-- The words of a command stand for it. -/
theorem ofWords_args {name : String} (hname : name ∈ c.names)
    (htarget : ∀ t ∈ c.target?, Target.parse t.text = .ok t) :
    ofWords (name :: c.args) = .ok c := by
  cases c with
  | help => rcases List.mem_pair.1 hname with rfl | rfl <;> rfl
  | reload =>
    obtain rfl := List.mem_singleton.1 hname
    rfl
  | inspect t =>
    have hwords : ofWords (name :: (inspect t).args) =
        (do return inspect (← Target.parse t.text)) := by
      rcases List.mem_pair.1 hname with rfl | rfl <;> rfl
    rw [hwords, htarget t rfl]
    rfl
  | chain t tokens =>
    have hwords : ofWords (name :: (chain t tokens).args) =
        (do return chain (← Target.parse t.text) tokens) := by
      rcases List.mem_pair.1 hname with rfl | rfl <;> rfl
    rw [hwords, htarget t rfl]
    rfl
  | methods t start =>
    have hwords : ofWords (name :: (methods t start).args) =
        (do return methods (← Target.parse t.text) start) := by
      rcases List.mem_pair.1 hname with rfl | rfl <;> rcases start with _ | start <;> rfl
    rw [hwords, htarget t rfl]
    rfl

/-- Names are bare words. -/
theorem isBare_of_mem_names {name : String} (hname : name ∈ c.names) :
    name.toList ≠ [] ∧ '"' ∉ name.toList ∧ ∀ d ∈ name.toList, ¬Text.isBlank d := by
  have hall : name.toList ≠ [] ∧ '"' ∉ name.toList ∧ name.toList.all (!Text.isBlank ·) = true := by
    cases c with
    | help | chain | methods | inspect =>
      rcases List.mem_pair.1 hname with rfl | rfl <;> decide
    | reload =>
      obtain rfl := List.mem_singleton.1 hname
      decide
  refine ⟨hall.1, hall.2.1, fun d hd hblank => ?_⟩
  have hd := List.all_eq_true.1 hall.2.2 d hd
  rw [hblank] at hd
  cases hd

theorem toList_target_text (t : Target) (ht : ∀ payload ∈ t.payload?, '"' ∉ payload.toList) :
    '"' ∉ t.text.toList := by
  cases t with
  | sender | server => decide
  | player payload | world payload | entity payload | block payload =>
    rw [Target.text, String.toList_append, List.mem_append, not_or]
    exact ⟨by decide, ht payload rfl⟩

/-- A command that can be written is read back. -/
theorem parse_of_writable {name : String} (hname : name ∈ c.names) (hc : c.Writable) :
    parse (c.written name) = .ok c := by
  obtain ⟨hne, hquote, hblank⟩ := isBare_of_mem_names hname
  have hargs : ∀ w ∈ c.args, '"' ∉ w.toList := by
    rw [args, List.forall_mem_append]
    refine ⟨fun w hw => ?_, hc.tokens⟩
    obtain ⟨t, ht, rfl⟩ := Option.map_eq_some_iff.1 (Option.mem_toList.1 hw)
    exact toList_target_text t fun payload hp => (hc.target t ht payload hp).2
  have hslash : ("/" ++ name).toList = '/' :: name.toList := by simp
  have hafter : Text.afterFirst '/' (c.written name) = some (Words.line name c.args) := by
    rw [Text.afterFirst, written, Words.toList_line, hslash, List.cons_append]
    dsimp only
    rw [if_pos rfl, ← Words.toList_line, String.ofList_toList]
  have hwords : Words.ofLine? (Words.line name c.args) = some (name :: c.args) := by
    rw [Words.ofLine?, Words.toList_line,
      Words.cut_line hne hquote hblank (List.forall_mem_map.2 hargs)]
    simp
  have htrim : Text.trim (c.written name) = c.written name := by
    refine Words.trim_line ?_ ?_ c.args
    · exact hslash ▸ List.cons_ne_nil _ _
    · rw [hslash, List.forall_mem_cons]
      exact ⟨by decide, hblank⟩
  unfold parse
  dsimp only
  rw [htrim, hafter, Option.getD_some, Words.trim_line hne hblank, hwords]
  exact ofWords_args hname fun t ht =>
    Target.parse_text fun payload hp => (hc.target t ht payload hp).1

/-- A command whose target is read from a word without quotes can be written, if there are no
    quotes in its tokens. -/
theorem writable_of_parse_target {word : String} {f : Target → Command}
    (h : (do return f (← Target.parse word)) = Except.ok c) (hword : '"' ∉ word.toList)
    (htarget : ∀ t, (f t).target? = some t)
    (htokens : ∀ t, ∀ token ∈ (f t).tokens, '"' ∉ token.toList) : c.Writable := by
  rcases ht : Target.parse word with fault | t
  · rw [ht] at h
    cases h
  · rw [ht] at h
    cases h
    refine ⟨fun t' ht' payload hp => ?_, htokens t⟩
    obtain rfl := Option.some.inj ((htarget t).symm.trans ht')
    obtain ⟨hne, hsub⟩ := Target.payload_of_parse ht payload hp
    exact ⟨hne, fun hquote => hword (hsub hquote)⟩

theorem writable_of_target?_eq_none (htarget : c.target? = none) : c.Writable := by
  cases c with
  | help | reload =>
    exact ⟨fun t ht => (Option.some_ne_none t ht.symm).elim,
      fun token hmem => (List.not_mem_nil hmem).elim⟩
  | chain | methods | inspect => cases htarget

/-- A command that stands for words without quotes can be written. -/
theorem writable_of_ofWords {words : List String} (hwords : ∀ w ∈ words, '"' ∉ w.toList)
    (h : ofWords words = .ok c) : c.Writable := by
  rcases words with _ | ⟨name, args⟩
  · cases h
    exact writable_of_target?_eq_none rfl
  have hargs := (List.forall_mem_cons.1 hwords).2
  unfold ofWords at h
  dsimp only at h
  split at h
  · cases h
    exact writable_of_target?_eq_none rfl
  split at h
  · rcases args with _ | ⟨word, tokens⟩
    · cases h
    · rw [List.forall_mem_cons] at hargs
      exact writable_of_parse_target h hargs.1 (fun _ => rfl) fun _ => hargs.2
  split at h
  · rcases args with _ | ⟨word, _ | ⟨start, _ | _⟩⟩
    · cases h
    · rw [List.forall_mem_cons] at hargs
      exact writable_of_parse_target h hargs.1 (fun _ => rfl) fun _ => hargs.2
    · rw [List.forall_mem_cons] at hargs
      exact writable_of_parse_target h hargs.1 (fun _ => rfl) fun _ => hargs.2
    · cases h
  split at h
  · rcases args with _ | ⟨word, _ | _⟩
    · cases h
    · rw [List.forall_mem_cons] at hargs
      exact writable_of_parse_target h hargs.1 (fun _ => rfl) fun _ => hargs.2
    · cases h
  split at h
  · cases h
    exact writable_of_target?_eq_none rfl
  · cases h

/-- A command that is read from a line can be written. -/
theorem writable_of_parse {text : String} (h : parse text = .ok c) : c.Writable := by
  unfold parse at h
  dsimp only at h
  split at h
  · cases h
  · rename_i words hwords
    exact writable_of_ofWords (Words.not_mem_of_ofLine? hwords) h

/-- What is written of a command by one of its names is read as this command, exactly if it can be
    written. -/
theorem parse_written_eq_ok_iff {name : String} (hname : name ∈ c.names) :
    parse (c.written name) = .ok c ↔ c.Writable :=
  ⟨writable_of_parse, parse_of_writable hname⟩

/-- A chain that starts from a world with a colon, a slash and a word for the sender in its name,
    and that has nothing, a blank and a word for a target in its tokens. -/
theorem parse_written_chain :
    parse "/chain \"world::/ self\" \"\" \"a b\" \"player:x\"" =
      .ok (chain (.world ":/ self") ["", "a b", "player:x"]) := by
  have hwritten : (chain (.world ":/ self") ["", "a b", "player:x"]).written "chain" =
      "/chain \"world::/ self\" \"\" \"a b\" \"player:x\"" := by decide
  rw [← hwritten]
  refine (parse_written_eq_ok_iff (List.mem_cons_self : "chain" ∈ ["chain", "c"])).2 ⟨?_, ?_⟩
  · rintro _ ⟨⟩ _ ⟨⟩
    decide
  · decide

end Command

end Chainwalk
