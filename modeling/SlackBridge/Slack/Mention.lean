import SlackBridge.Text.Blank
import SlackBridge.Text.Pieces

/-!
The text of a message as a person reads it.

In a message, a mention stands as `<@id>` or `<@id|name>` and a link with a label as
`<target|label>`. A mention of the bot, with the blanks around it, gives way to one blank, and a
labelled link to its label; everything else stays.
-/

namespace SlackBridge.Slack

open Text

/-- A mention of a user, with the name it is shown under. -/
structure Mention where
  id : List Char
  name : Option (List Char)
deriving DecidableEq, Repr

namespace Mention

def chars (m : Mention) : List Char :=
  let name := match m.name with
    | some n => '|' :: n
    | none => []
  '<' :: '@' :: (m.id ++ name ++ ['>'])

/-- The characters that an id may hold. -/
def isIdChar (c : Char) : Bool :=
  c != '>' && c != '|' && !isBlank c

/-- The mention that a text begins with, and what follows it. -/
def read? : List Char → Option (Mention × List Char)
  | '<' :: '@' :: cs =>
    let id := cs.takeWhile isIdChar
    if id = [] then none
    else match cs.dropWhile isIdChar with
      | '>' :: rest => some (⟨id, none⟩, rest)
      | '|' :: named =>
        match named.dropWhile (· != '>') with
        | '>' :: rest => some (⟨id, some (named.takeWhile (· != '>'))⟩, rest)
        | _ => none
      | _ => none
  | _ => none

/-- What a mention was read from is the mention and the rest. -/
theorem eq_append_of_read? {cs : List Char} {m : Mention} {rest : List Char}
    (h : read? cs = some (m, rest)) : cs = m.chars ++ rest := by
  have split (p : Char → Bool) (l : List Char) : l.takeWhile p ++ l.dropWhile p = l :=
    List.takeWhile_append_dropWhile
  unfold read? at h
  split at h
  · next cs =>
    dsimp only at h
    split at h
    · cases h
    · split at h
      · next r hd =>
        obtain ⟨rfl, rfl⟩ : _ ∧ _ := by simpa using h
        have := split isIdChar cs
        rw [hd] at this
        simp [chars, this]
      · next named hd =>
        split at h
        · next r hn =>
          obtain ⟨rfl, rfl⟩ : _ ∧ _ := by simpa using h
          have h1 := split isIdChar cs
          have h2 := split (· != '>') named
          rw [hn] at h2
          rw [hd] at h1
          simp [chars, h1, h2]
        · cases h
      · cases h
  · cases h

end Mention

/-- Puts a blank in place of the mentions that satisfy `isBot` and the blanks around them. The
characters before `cs` are in `done`, in reverse. -/
def dropMentionsFrom (isBot : List Char → Bool) (done cs : List Char) : List Char :=
  match _h : Mention.read? (cs.dropWhile isBlank) with
  | some (m, after) =>
    let kept :=
      if isBot m.id then [' '] else cs.takeWhile isBlank ++ m.chars ++ after.takeWhile isBlank
    dropMentionsFrom isBot (kept.reverse ++ done) (after.dropWhile isBlank)
  | none =>
    match _hr : cs.dropWhile isBlank with
    | [] => ((cs.takeWhile isBlank).reverse ++ done).reverse
    | c :: rest => dropMentionsFrom isBot (c :: ((cs.takeWhile isBlank).reverse ++ done)) rest
termination_by cs.length
decreasing_by
  · have hcs := (List.dropWhile_sublist (l := cs) isBlank).length_le
    have hm := congrArg List.length (Mention.eq_append_of_read? _h)
    have ha := (List.dropWhile_sublist (l := after) isBlank).length_le
    simp only [Mention.chars, List.length_append, List.length_cons] at hm
    omega
  · have hcs := (List.dropWhile_sublist (l := cs) isBlank).length_le
    rw [_hr, List.length_cons] at hcs
    omega

def dropMentions (isBot : List Char → Bool) (cs : List Char) : List Char :=
  dropMentionsFrom isBot [] cs

/-- What a link with a label may begin with. -/
def linkStarts : List (List Char) :=
  ["<mailto:".toList, "<http://".toList, "<https://".toList]

/-- The label of the link that a text begins with, and what follows the link. -/
def labelledLink? (cs : List Char) : Option (List Char × List Char) :=
  match linkStarts.find? (·.isPrefixOf cs) with
  | none => none
  | some start =>
    match (cs.drop start.length).dropWhile fun c => c != '|' && c != '>' with
    | '|' :: rest =>
      match rest.dropWhile (· != '>') with
      | '>' :: after => some (rest.takeWhile (· != '>'), after)
      | _ => none
    | _ => none

theorem length_lt_of_labelledLink? {cs label after : List Char}
    (h : labelledLink? cs = some (label, after)) : after.length < cs.length := by
  unfold labelledLink? at h
  split at h
  · cases h
  · next start _ =>
    split at h
    · next rest hr =>
      split at h
      · next a ha =>
        obtain ⟨-, rfl⟩ : _ ∧ _ := by simpa using h
        have h1 := (List.dropWhile_sublist (l := rest) (· != '>')).length_le
        have h2 := (List.dropWhile_sublist (l := cs.drop start.length)
          fun c => c != '|' && c != '>').length_le
        rw [ha] at h1
        rw [hr] at h2
        simp only [List.length_cons, List.length_drop] at h1 h2
        omega
      · cases h
    · cases h

/-- Puts the label in place of each labelled link. -/
def unwrapLinksFrom (done cs : List Char) : List Char :=
  match _h : labelledLink? cs with
  | some (label, after) => unwrapLinksFrom (label.reverse ++ done) after
  | none =>
    match cs with
    | [] => done.reverse
    | c :: rest => unwrapLinksFrom (c :: done) rest
termination_by cs.length
decreasing_by
  · exact length_lt_of_labelledLink? _h
  · exact Nat.lt_succ_self rest.length

def unwrapLinks (cs : List Char) : List Char :=
  unwrapLinksFrom [] cs

/-- The plain text of a message to a bot that goes under the given ids. -/
def sanitize (botIds : List String) (text : String) : String :=
  let isBot (id : List Char) : Bool := botIds.contains (String.ofList id)
  String.ofList (trimChars (unwrapLinks (dropMentions isBot text.toList)))

end SlackBridge.Slack
