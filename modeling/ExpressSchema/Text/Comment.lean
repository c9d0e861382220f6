/-
# Comments

Two kinds of comment are taken out of schema text before it is read: one from `--` to the end of
the line, and one between `(*` and `*)`, which may run over several lines and leaves a space
behind.  Neither starts inside a quoted text, and a quoted text ends with its line at the latest.

A line is searched from marker to marker; `stripCode` copies what lies between them.
-/
namespace ExpressSchema
namespace Text

/-- What the end of a line is part of. -/
inductive CommentMode where
  /-- Text to be read. -/
  | code
  /-- A comment that goes on. -/
  | block
deriving DecidableEq, Repr, Inhabited

/-- A line without its comments. -/
structure StrippedLine where
  /-- What is left of the line. -/
  text : List Char
  /-- Whether anything was taken out. -/
  isRebuilt : Bool
  /-- What the end of the line is part of. -/
  mode : CommentMode
deriving DecidableEq, Repr

/-- Put text in front of a stripped line. -/
def StrippedLine.after (front : List Char) (l : StrippedLine) : StrippedLine :=
  { l with text := front ++ l.text }

/-- A stripped line from which something was taken out. -/
def StrippedLine.rebuilt (l : StrippedLine) : StrippedLine := { l with isRebuilt := true }

/-- What follows the first end of a block comment, if there is one. -/
def afterBlock? : List Char → Option (List Char)
  | [] => none
  | '*' :: ')' :: rest => some rest
  | _ :: rest => afterBlock? rest

theorem length_lt_of_afterBlock? {cs rest : List Char} (h : afterBlock? cs = some rest) :
    rest.length < cs.length := by
  fun_induction afterBlock? cs with
  | case1 => simp at h
  | case2 ds =>
    simp only [Option.some.injEq] at h
    subst h
    simp only [List.length_cons]
    omega
  | case3 c ds _ ih =>
    have := ih h
    simp only [List.length_cons]
    omega

/-- Whether a character might start a comment or a quoted text. -/
def isMarker (c : Char) : Bool := c == '(' || c == '-' || c == '\''

/-- A quoted text up to and with its closing quote, and what follows it; the opening quote is
already taken off. -/
def splitQuote (cs : List Char) : List Char × List Char :=
  let inside := cs.takeWhile (· != '\'')
  match cs.dropWhile (· != '\'') with
  | [] => (inside, [])
  | quote :: rest => (inside ++ [quote], rest)

theorem length_splitQuote_le (cs : List Char) : (splitQuote cs).2.length ≤ cs.length := by
  have h := (List.dropWhile_sublist (l := cs) (· != '\'')).length_le
  unfold splitQuote
  split
  · simp
  · rename_i heq
    rw [heq] at h
    simp only [List.length_cons] at h
    simp only
    omega

/-- Strip a line, or what is left of it, that starts as text to be read. -/
def stripCode (cs : List Char) : StrippedLine :=
  let plain := cs.takeWhile fun c => !isMarker c
  match _rest : cs.dropWhile fun c => !isMarker c with
  | [] => ⟨plain, false, .code⟩
  | '\'' :: rest =>
    (stripCode (splitQuote rest).2).after (plain ++ '\'' :: (splitQuote rest).1)
  | '(' :: '*' :: rest =>
    match _closed : afterBlock? rest with
    | none => ⟨plain, true, .block⟩
    | some rest' => ((stripCode rest').after (plain ++ [' '])).rebuilt
  | '-' :: '-' :: _ => ⟨plain, true, .code⟩
  | c :: rest => (stripCode rest).after (plain ++ [c])
termination_by cs.length
decreasing_by
  all_goals
    have hd := (List.dropWhile_sublist (l := cs) fun c => !isMarker c).length_le
    rw [_rest] at hd
    simp only [List.length_cons] at hd
  · have := length_splitQuote_le rest
    omega
  · have := length_lt_of_afterBlock? _closed
    omega
  · omega

/-- A quoted text and what follows it make up the whole. -/
theorem splitQuote_append (cs : List Char) : (splitQuote cs).1 ++ (splitQuote cs).2 = cs := by
  have h := List.takeWhile_append_dropWhile (p := (· != '\'')) (l := cs)
  unfold splitQuote
  split
  · rename_i heq
    rw [heq] at h
    simpa using h
  · rename_i heq
    rw [heq] at h
    simpa using h

/-- A line from which nothing was taken out is left as it was. -/
theorem text_stripCode_of_not_isRebuilt {cs : List Char} (h : (stripCode cs).isRebuilt = false) :
    (stripCode cs).text = cs := by
  fun_induction stripCode cs with
  | case1 cs plain hd =>
    have hc := List.takeWhile_append_dropWhile (p := fun c => !isMarker c) (l := cs)
    rw [hd] at hc
    simpa [plain] using hc
  | case2 cs plain rest hd ih =>
    have hc := List.takeWhile_append_dropWhile (p := fun c => !isMarker c) (l := cs)
    have hq := splitQuote_append rest
    rw [hd] at hc
    have ht := ih h
    simp only [StrippedLine.after, ht, plain]
    rw [List.append_assoc, List.cons_append, hq]
    exact hc
  | case3 => simp at h
  | case4 => simp [StrippedLine.rebuilt] at h
  | case5 => simp at h
  | case6 cs plain c rest _ _ _ hd ih =>
    have hc := List.takeWhile_append_dropWhile (p := fun c => !isMarker c) (l := cs)
    rw [hd] at hc
    have ht := ih h
    simp only [StrippedLine.after, ht, plain]
    rw [List.append_assoc, List.singleton_append]
    exact hc

/-- Strip a line that starts in the given mode.  An empty line is left alone. -/
def stripLine (mode : CommentMode) (line : List Char) : StrippedLine :=
  match mode with
  | .code => stripCode line
  | .block =>
    if line.isEmpty then ⟨[], false, .block⟩
    else
      match afterBlock? line with
      | none => ⟨[], true, .block⟩
      | some rest => ((stripCode rest).after [' ']).rebuilt

/-- Strip several lines, each starting in the mode in which the one before it ended. -/
def stripLines (mode : CommentMode) : List (List Char) → List StrippedLine
  | [] => []
  | line :: lines =>
    let stripped := stripLine mode line
    stripped :: stripLines stripped.mode lines

@[simp] theorem length_stripLines (mode : CommentMode) (lines : List (List Char)) :
    (stripLines mode lines).length = lines.length := by
  induction lines generalizing mode with
  | nil => rfl
  | cons line lines ih => simp [stripLines, ih]

end Text
end ExpressSchema
