/-
**What readers keep.**

The readers of `Inlay/Syntax/Reader.lean` are put together from a few others, one after the other, one or the
other, again and again.  Whatever is put together this way goes on from a place of the code to a place of
the code, and every loop in the trees that it gives stands where the code has the header of a loop: the word
`for`, and a parenthesis behind it with only white space, comments and perhaps the word `await` between
them.  Being so is a class, and each way of putting readers together is an instance of it, so that a
construct of the grammar has it as soon as its parts do.

Main definitions:

* `Inlay.Tree.Within` — whether a node stands anywhere in a concrete tree;
* `Inlay.Syntax.IsComment`, `Inlay.Syntax.IsGap` — **comments, and what may stand between tokens**;
* `Inlay.Syntax.LoopHeader` — **where a code has the header of a loop**;
* `Inlay.Syntax.Input.LeftOf` — an input that is what is left of a code;
* `Inlay.Syntax.Shown`, `Inlay.Syntax.Sound` — trees whose loops have headers, and the readers that give
  such trees.

Main results:

* `Inlay.Syntax.isComment_take` — a comment that is read is one;
* `Inlay.Syntax.exists_isGap` — what is skipped between tokens is a gap;
* `Inlay.Syntax.eq_of_keyword`, `Inlay.Syntax.eq_of_mark` — a token that is read stands in the code.
-/
import Inlay.Proofs.Split
import Inlay.Syntax.Goal

set_option autoImplicit false

namespace Inlay

/-- Whether a node stands in a tree: it is the root, or it stands in the tree of a child. -/
inductive Tree.Within (node : Tree) : Tree → Prop
  | root : Within node node
  | child {root child : Tree} (hchild : child ∈ root.children) (h : Within node child) :
      Within node root

namespace Syntax

/-! ### Comments and gaps -/

/-- A comment: up to the end of its line, or up to the first star with a slash. -/
inductive IsComment : List Char → Prop
  | line {body : List Char} (hbody : ∀ c ∈ body, isLineEnd c = false) :
      IsComment ('/' :: '/' :: body)
  | starred {body : List Char} (hbody : ¬ ['*', '/'] <:+: body ++ ['*']) :
      IsComment ('/' :: '*' :: (body ++ ['*', '/']))

/-- What may stand between two tokens: white space and comments. -/
inductive IsGap : List Char → Prop
  | nil : IsGap []
  | space {c : Char} {rest : List Char} (hc : isSpace c = true) (hrest : IsGap rest) :
      IsGap (c :: rest)
  | comment {text rest : List Char} (htext : IsComment text) (hrest : IsGap rest) :
      IsGap (text ++ rest)

theorem IsGap.append {front back : List Char} (hfront : IsGap front) (hback : IsGap back) :
    IsGap (front ++ back) := by
  induction hfront with
  | nil => exact hback
  | space hc _ ih => exact .space hc ih
  | comment htext _ ih =>
      rw [List.append_assoc]
      exact .comment htext ih

theorem isGap_of_forall {cs : List Char} (h : ∀ c ∈ cs, isSpace c = true) : IsGap cs := by
  induction cs with
  | nil => exact .nil
  | cons c cs ih =>
      rw [List.forall_mem_cons] at h
      exact .space h.1 (ih h.2)

/-- The first star with a slash ends a comment. -/
theorem exists_of_closingStar {code : List Char} {n length : Nat}
    (h : closingStar code n = some length) :
    ∃ body rest, code = body ++ '*' :: '/' :: rest ∧ length = n + body.length + 2 ∧
      ¬ ['*', '/'] <:+: body ++ ['*'] := by
  fun_induction closingStar code n with
  | case1 => cases h
  | case2 rest n =>
      obtain rfl := Option.some.inj h
      exact ⟨[], rest, rfl, rfl, by decide⟩
  | case3 c rest n hstar ih =>
      obtain ⟨body, back, rfl, rfl, hbody⟩ := ih h
      refine ⟨c :: body, back, rfl, by rw [List.length_cons]; omega, ?_⟩
      rw [List.cons_append, List.infix_cons_iff]
      rintro (hhere | hbehind)
      · -- the comment would have ended at its first character
        obtain ⟨rfl, htail⟩ := List.cons_prefix_cons.1 hhere
        cases body with
        | nil => simp at htail
        | cons d body =>
            obtain ⟨rfl, _⟩ := List.cons_prefix_cons.1 htail
            exact hstar _ rfl rfl
      · exact hbody hbehind

/-- A comment that is read is one. -/
theorem isComment_take {code : List Char} {n : Nat} (h : commentLength code = some n) :
    IsComment (code.take n) := by
  unfold commentLength at h
  split at h
  · next rest =>
      obtain rfl := Option.some.inj h
      rw [List.take_succ_cons, List.take_succ_cons, Text.take_length_takeWhile]
      exact .line fun c hc => by simpa using List.mem_takeWhile_imp hc
  · next rest =>
      obtain ⟨body, back, rfl, rfl, hbody⟩ := exists_of_closingStar h
      have htake : (body ++ '*' :: '/' :: back).take (body.length + 2) = body ++ ['*', '/'] := by
        rw [List.take_length_add_append]
        rfl
      rw [Nat.add_assoc, Nat.add_comm 2, List.take_succ_cons, List.take_succ_cons, htake]
      exact .starred hbody
  · cases h

/-! ### Headers of loops -/

/-- What may stand between the word `for` and the parenthesis of a loop: a gap, and perhaps the word `await`
in it. -/
def IsLoopGap (gap : List Char) : Prop :=
  IsGap gap ∨ ∃ before after, gap = before ++ ("await".toList ++ after) ∧ IsGap before ∧ IsGap after

/-- Whether the header of a loop stands at an offset of a code, with `gap` between the word `for` and the
parenthesis. -/
def LoopHeader (code : List Char) (offset : Nat) (gap : List Char) : Prop :=
  ∃ front back, code = front ++ ("for".toList ++ (gap ++ '(' :: back)) ∧
    Text.utf8Length front = offset ∧ IsLoopGap gap

/-! ### Places of a code -/

/-- Whether an input is what is left of a code. -/
def Input.LeftOf (input : Input) (code : List Char) : Prop :=
  ∃ front, code = front ++ input.rest ∧ Text.utf8Length front = input.offset

theorem Input.LeftOf.advance {input : Input} {code : List Char} (h : input.LeftOf code) (n : Nat) :
    (input.advance n).LeftOf code := by
  obtain ⟨front, hcode, hoffset⟩ := h
  refine ⟨front ++ input.rest.take n, ?_, ?_⟩
  · rw [Input.advance, List.append_assoc, List.take_append_drop, hcode]
  · rw [Input.advance, Text.utf8Length_append, hoffset]

/-! ### Trees whose loops have headers -/

/-- Whether all loops in a list of trees stand at headers of the code. -/
class Shown (code : List Char) (trees : List Tree) : Prop where
  exists_header : ∀ tree ∈ trees, ∀ node, Tree.Within node tree → node.kind = .iteration →
    ∃ gap, LoopHeader code node.start gap

/-- Trees whose loops stand at headers of the code. -/
abbrev ShownTrees (code : List Char) : Type :=
  { trees : List Tree // Shown code trees }

/-- Whether a reader goes on from a place of the code to a place of the code, and gives trees whose loops
stand at headers of the code. -/
class Sound (code : List Char) (reader : Row) : Prop where
  keeps : ∀ {input after : Input} {trees : List Tree}, reader input = some (trees, after) →
    input.LeftOf code → after.LeftOf code ∧ Shown code trees

/-- Whether a node is no loop. -/
class Plain (kind : TreeKind) : Prop where
  ne_iteration : kind ≠ .iteration

instance {text : String} : Plain (.token text) := ⟨by simp⟩

instance {name : String} : Plain (.identifier name) := ⟨by simp⟩

instance : Plain .declaration := ⟨by simp⟩

instance : Plain .declarator := ⟨by simp⟩

instance : Plain .block := ⟨by simp⟩

instance {name : String} : Plain (.other name) := ⟨by simp⟩

variable {code : List Char}

instance {trees : ShownTrees code} : Shown code trees.val := trees.property

instance : Shown code [] := ⟨by simp⟩

instance {front back : List Tree} [hfront : Shown code front] [hback : Shown code back] :
    Shown code (front ++ back) where
  exists_header tree htree := by
    rcases List.mem_append.1 htree with htree | htree
    · exact hfront.exists_header tree htree
    · exact hback.exists_header tree htree

/-- A tree is shown if its children are and it is shown itself. -/
theorem shown_singleton {tree : Tree} (hchildren : Shown code tree.children)
    (hroot : tree.kind = .iteration → ∃ gap, LoopHeader code tree.start gap) : Shown code [tree] where
  exists_header other hother node hwithin hkind := by
    obtain rfl := List.mem_singleton.1 hother
    cases hwithin with
    | root => exact hroot hkind
    | child hchild hwithin => exact hchildren.exists_header _ hchild node hwithin hkind

theorem Shown.children {trees : List Tree} (h : Shown code trees) {tree : Tree} (htree : tree ∈ trees) :
    Shown code tree.children where
  exists_header _ hchild node hwithin := h.exists_header tree htree node (.child hchild hwithin)

/-- The role of a node in its parent has nothing to do with its loops. -/
instance {name : String} {trees : List Tree} [h : Shown code trees] :
    Shown code (withField name trees) where
  exists_header tree htree := by
    obtain ⟨other, hother, rfl⟩ := List.mem_map.1 htree
    have hchildren : Shown code other.children := h.children hother
    have hrenamed : Shown code [{ other with field := some name }] :=
      shown_singleton hchildren (h.exists_header other hother other .root)
    split
    · exact h.exists_header other hother
    · exact hrenamed.exists_header _ (List.mem_singleton_self _)

/-! ### Readers put together -/

theorem Reader.bind_eq_some_iff {α β : Type} {reader : Reader α} {more : α → Reader β}
    {input after : Input} {y : β} :
    (reader >>= more) input = some (y, after) ↔
      ∃ x between, reader input = some (x, between) ∧ more x between = some (y, after) := by
  simp only [bind]
  cases reader input with
  | none => simp
  | some result =>
      obtain ⟨x, between⟩ := result
      constructor
      · intro h
        exact ⟨x, between, rfl, h⟩
      · rintro ⟨_, _, heq, h⟩
        obtain ⟨rfl, rfl⟩ := Prod.mk.inj (Option.some.inj heq)
        exact h

theorem Reader.orElse_eq_some {α : Type} {first second : Reader α} {input : Input}
    {result : α × Input} (h : (first <|> second) input = some result) :
    first input = some result ∨ second input = some result := by
  simp only [HOrElse.hOrElse, OrElse.orElse, Reader.orElse] at h
  split at h
  · next hfirst => exact Or.inl (hfirst.trans h)
  · exact Or.inr h

instance {trees : List Tree} [hshown : Shown code trees] : Sound code (pure trees) where
  keeps h hinput := by
    obtain ⟨rfl, rfl⟩ := Prod.mk.inj (Option.some.inj h)
    exact ⟨hinput, hshown⟩

instance : Sound code nothing := by
  unfold nothing
  infer_instance

instance : Sound code Reader.fail where
  keeps h := by cases h

instance {reader : Row} {more : List Tree → Row} [hreader : Sound code reader]
    [hmore : ∀ trees : ShownTrees code, Sound code (more trees.val)] :
    Sound code (reader >>= more) where
  keeps h hinput := by
    obtain ⟨trees, between, hfirst, hsecond⟩ := Reader.bind_eq_some_iff.1 h
    obtain ⟨hbetween, hshown⟩ := hreader.keeps hfirst hinput
    exact (hmore ⟨trees, hshown⟩).keeps hsecond hbetween

instance Sound.rest_bind {more : List Char → Row} [hmore : ∀ rest, Sound code (more rest)] :
    Sound code (Reader.rest >>= more) where
  keeps h hinput := by
    obtain ⟨rest, between, hfirst, hsecond⟩ := Reader.bind_eq_some_iff.1 h
    obtain ⟨rfl, rfl⟩ := Prod.mk.inj (Option.some.inj hfirst)
    exact (hmore _).keeps hsecond hinput

instance {test : List Char → Bool} {more : Unit → Row} [hmore : ∀ passed, Sound code (more passed)] :
    Sound code (Reader.ensure test >>= more) where
  keeps h hinput := by
    obtain ⟨_, between, hfirst, hsecond⟩ := Reader.bind_eq_some_iff.1 h
    rw [Reader.ensure] at hfirst
    split at hfirst
    · obtain ⟨rfl, rfl⟩ := Prod.mk.inj (Option.some.inj hfirst)
      exact (hmore _).keeps hsecond hinput
    · cases hfirst

instance {reader : Row} [hreader : Sound code reader] : Sound code (Reader.ahead reader) where
  keeps h hinput := by
    obtain ⟨⟨trees, after⟩, hread, heq⟩ := Option.map_eq_some_iff.1 h
    obtain ⟨rfl, rfl⟩ := Prod.mk.inj heq
    exact ⟨hinput, (hreader.keeps hread hinput).2⟩

instance {first second : Row} [hfirst : Sound code first] [hsecond : Sound code second] :
    Sound code (first <|> second) where
  keeps h hinput := by
    rcases Reader.orElse_eq_some h with h | h
    · exact hfirst.keeps h hinput
    · exact hsecond.keeps h hinput

instance {condition : Prop} [Decidable condition] {first second : Row} [Sound code first]
    [Sound code second] : Sound code (if condition then first else second) := by
  split <;> infer_instance

/-! ### Constructs one after the other -/

instance : Sound code (row []) := by
  unfold row
  infer_instance

instance {first : Row} {rest : List Row} [Sound code first] [Sound code (row rest)] :
    Sound code (row (first :: rest)) := by
  unfold row
  infer_instance

/-- A row that is read starts with its first construct. -/
theorem exists_of_row_cons {first : Row} {rest : List Row} {input after : Input} {trees : List Tree}
    (h : row (first :: rest) input = some (trees, after)) :
    ∃ front between back, first input = some (front, between) ∧
      row rest between = some (back, after) ∧ trees = front ++ back := by
  rw [row] at h
  obtain ⟨front, between, hfirst, hrest⟩ := Reader.bind_eq_some_iff.1 h
  obtain ⟨back, last, hback, hlast⟩ := Reader.bind_eq_some_iff.1 hrest
  obtain ⟨rfl, rfl⟩ := Prod.mk.inj (Option.some.inj hlast)
  exact ⟨front, between, back, hfirst, hback, rfl⟩

instance {reader : Row} [Sound code reader] : Sound code (optional reader) := by
  unfold optional
  infer_instance

instance : Sound code (oneOf []) := by
  unfold oneOf
  infer_instance

instance {first : Row} {rest : List Row} [Sound code first] [Sound code (oneOf rest)] :
    Sound code (oneOf (first :: rest)) := by
  unfold oneOf
  infer_instance

instance {reader : Row} [Sound code reader] {count : Nat} : Sound code (manyUpTo reader count) := by
  induction count with
  | zero =>
      unfold manyUpTo
      infer_instance
  | succ count ih =>
      unfold manyUpTo
      infer_instance

instance {reader : Row} [hreader : Sound code reader] : Sound code (many reader) where
  keeps {input after trees} h hinput := by
    have hmany : Sound code (manyUpTo reader (input.rest.length + 1)) := inferInstance
    exact hmany.keeps h hinput

/-! ### Nodes -/

instance {kind : TreeKind} [hkind : Plain kind] {n : Nat} : Sound code (leaf kind n) where
  keeps h hinput := by
    obtain ⟨rfl, rfl⟩ := Prod.mk.inj (Option.some.inj h)
    refine ⟨hinput.advance n, shown_singleton inferInstance ?_⟩
    intro hloop
    exact absurd hloop hkind.ne_iteration

/-- What a node is made from. -/
theorem exists_of_node {kind : TreeKind} {reader : Row} {input after : Input} {trees : List Tree}
    (h : node kind reader input = some (trees, after)) :
    ∃ children stop, reader input = some (children, after) ∧
      trees = [{ kind, start := (children.head?.map (·.start)).getD input.offset, stop, children }] := by
  rw [node] at h
  split at h
  · cases h
  · next children between hreader =>
      obtain ⟨rfl, rfl⟩ := Prod.mk.inj (Option.some.inj h)
      exact ⟨children, _, hreader, rfl⟩

instance {kind : TreeKind} [hkind : Plain kind] {reader : Row} [hreader : Sound code reader] :
    Sound code (node kind reader) where
  keeps h hinput := by
    obtain ⟨children, stop, hchildren, rfl⟩ := exists_of_node h
    obtain ⟨hafter, hshown⟩ := hreader.keeps hchildren hinput
    refine ⟨hafter, shown_singleton hshown ?_⟩
    intro hloop
    exact absurd hloop hkind.ne_iteration

instance {name : String} {reader : Row} [Sound code reader] : Sound code (named name reader) := by
  unfold named
  infer_instance

instance {name : String} {reader : Row} [Sound code reader] : Sound code (field name reader) := by
  have hfield : field name reader = reader >>= fun trees => pure (withField name trees) := rfl
  rw [hfield]
  infer_instance

/-! ### White space and comments -/

instance : Sound code comment where
  keeps h hinput := by
    rw [comment] at h
    split at h
    · next n _ =>
        have hleaf : Sound code (leaf (.other "comment") n) := inferInstance
        exact hleaf.keeps h hinput
    · cases h

theorem Input.LeftOf.skipSpace {input : Input} (h : input.LeftOf code) : (skipSpace input).LeftOf code :=
  h.advance _

/-- A comment after white space, and what follows it. -/
theorem keeps_comment {reader : Row} [hreader : Sound code reader] {input between after : Input}
    {found more : List Tree} (hinput : input.LeftOf code)
    (hcomment : comment (skipSpace input) = some (found, between))
    (hmore : reader between = some (more, after)) : after.LeftOf code ∧ Shown code (found ++ more) := by
  have hread : Sound code comment := inferInstance
  obtain ⟨hbetween, hfound⟩ := hread.keeps hcomment hinput.skipSpace
  obtain ⟨hafter, hshown⟩ := hreader.keeps hmore hbetween
  exact ⟨hafter, inferInstance⟩

/-- What a gap is made from: white space, and then either nothing or a comment and another gap. -/
theorem gapUpTo_succ_cases {count : Nat} {input after : Input} {trees : List Tree}
    (h : gapUpTo (count + 1) input = some (trees, after)) :
    (trees = [] ∧ after = skipSpace input) ∨
      ∃ found between more, comment (skipSpace input) = some (found, between) ∧
        gapUpTo count between = some (more, after) ∧ trees = found ++ more := by
  simp only [gapUpTo] at h
  split at h
  · obtain ⟨rfl, rfl⟩ := Prod.mk.inj (Option.some.inj h)
    exact Or.inl ⟨rfl, rfl⟩
  · next found between hcomment =>
      split at h
      · next more last hmore =>
          obtain ⟨rfl, rfl⟩ := Prod.mk.inj (Option.some.inj h)
          exact Or.inr ⟨found, between, more, hcomment, hmore, rfl⟩
      · cases h

instance {count : Nat} : Sound code (gapUpTo count) := by
  induction count with
  | zero =>
      unfold gapUpTo
      infer_instance
  | succ count ih =>
      refine ⟨fun {input after trees} h hinput => ?_⟩
      rcases gapUpTo_succ_cases h with ⟨rfl, rfl⟩ | ⟨found, between, more, hcomment, hmore, rfl⟩
      · exact ⟨hinput.skipSpace, inferInstance⟩
      · exact keeps_comment hinput hcomment hmore

instance : Sound code gap where
  keeps {input after trees} h hinput := by
    have hgap : Sound code (gapUpTo (input.rest.length + 1)) := inferInstance
    exact hgap.keeps h hinput

instance {reader : Row} [Sound code reader] : Sound code (next reader) := by
  unfold next
  infer_instance

instance {separator reader : Row} [Sound code separator] [Sound code reader] :
    Sound code (separated separator reader) := by
  unfold separated
  infer_instance

/-! ### Constructs that start with a construct -/

instance {kind : String} {front : List Tree} [Shown code front] {more : Row} [Sound code more] :
    Sound code (widen kind front more) := by
  unfold widen
  infer_instance

instance {suffix : List Tree → Row} [hsuffix : ∀ front : ShownTrees code, Sound code (suffix front.val)]
    {count : Nat} {trees : List Tree} [hshown : Shown code trees] :
    Sound code (chainUpTo suffix count trees) := by
  induction count generalizing trees with
  | zero =>
      unfold chainUpTo
      infer_instance
  | succ count ih =>
      unfold chainUpTo
      have hhere : Sound code (suffix trees) := hsuffix ⟨trees, hshown⟩
      have hwider : ∀ wider : ShownTrees code, Sound code (chainUpTo suffix count wider.val) :=
        fun wider => ih
      infer_instance

instance {first : Row} [Sound code first] {suffix : List Tree → Row}
    [∀ front : ShownTrees code, Sound code (suffix front.val)] : Sound code (chain first suffix) := by
  unfold chain
  infer_instance

instance {first : Row} [Sound code first] {suffix : List Tree → Row}
    [∀ front : ShownTrees code, Sound code (suffix front.val)] : Sound code (widenOnce first suffix) := by
  unfold widenOnce
  infer_instance

/-! ### Tokens -/

instance {word : String} : Sound code (keyword word) := by
  unfold keyword
  infer_instance

instance {word : String} : Sound code (wordNode word) := by
  unfold wordNode
  infer_instance

instance {words : List String} : Sound code (keywordOf words) := by
  unfold keywordOf
  induction words with
  | nil =>
      rw [List.map_nil]
      infer_instance
  | cons word words ih =>
      rw [List.map_cons]
      infer_instance

instance {kind : String → TreeKind} [∀ word, Plain (kind word)] : Sound code (anyWord kind) := by
  unfold anyWord
  infer_instance

instance : Sound code identifier := by
  unfold identifier
  infer_instance

instance : Sound code bindingName := by
  unfold bindingName
  infer_instance

instance : Sound code propertyWord := by
  unfold propertyWord
  infer_instance

instance : Sound code typeName := by
  unfold typeName
  infer_instance

instance : Sound code privateName := by
  unfold privateName
  refine @Sound.rest_bind _ _ fun rest => ?_
  split <;> infer_instance

instance {symbol : String} : Sound code (mark symbol) := by
  unfold mark
  infer_instance

instance {symbols : List String} : Sound code (markOf symbols) := by
  unfold markOf
  refine @Sound.rest_bind _ _ fun rest => ?_
  split <;> infer_instance

instance {c : Char} : Sound code (charMark c) := by
  unfold charMark
  infer_instance

instance : Sound code number := by
  unfold number
  refine @Sound.rest_bind _ _ fun rest => ?_
  split <;> infer_instance

instance : Sound code escape := by
  unfold escape
  refine @Sound.rest_bind _ _ fun rest => ?_
  split <;> infer_instance

instance : Sound code quoted := by
  unfold quoted stringIn stringFragment
  infer_instance

instance : Sound code templateFragment := by
  unfold templateFragment
  infer_instance

instance : Sound code patternLiteral := by
  unfold patternLiteral patternFlags
  refine @Sound.rest_bind _ _ fun rest => ?_
  split
  · split <;> infer_instance
  · infer_instance

/-! ### Tokens in the code -/

theorem wordFrom_isPrefix (left : Nat) (code : List Char) : wordFrom left code <+: code := by
  fun_induction wordFrom left code with
  | case1 => exact List.prefix_rfl
  | case2 left c rest ih => exact List.cons_prefix_cons.2 ⟨rfl, ih⟩
  | case3 c rest hc ih => exact List.cons_prefix_cons.2 ⟨rfl, ih⟩
  | case4 c rest hc left hescape ih => exact List.cons_prefix_cons.2 ⟨rfl, ih⟩
  | case5 c rest hc hescape => exact List.nil_prefix

theorem wordAt_isPrefix (code : List Char) : wordAt code <+: code := by
  rw [wordAt]
  split
  · exact List.nil_prefix
  · exact wordFrom_isPrefix 0 code

theorem symbolAt_isPrefix {code : List Char} {symbol : String} (h : symbolAt code = some symbol) :
    symbol.toList <+: code := by
  unfold symbolAt at h
  split at h
  · next c rest =>
      split at h
      · obtain rfl := Option.some.inj h
        exact ⟨'.' :: c :: rest, rfl⟩
      · obtain rfl := Option.some.inj h
        exact ⟨c :: rest, rfl⟩
  · have hstands := List.find?_some h
    exact List.isPrefixOf_iff_prefix.1 hstands

/-- A token as a leaf, after a test that it stands here. -/
theorem eq_of_ensure_leaf {test : List Char → Bool} {kind : TreeKind} {text : String} {input after : Input}
    {trees : List Tree} (htest : test input.rest = true → text.toList <+: input.rest)
    (h : (do Reader.ensure test; leaf kind text.length : Row) input = some (trees, after)) :
    input.rest = text.toList ++ after.rest ∧ trees.head?.map (·.start) = some input.offset := by
  obtain ⟨_, between, hensure, hleaf⟩ := Reader.bind_eq_some_iff.1 h
  rw [Reader.ensure] at hensure
  split at hensure
  · next hpass =>
      obtain ⟨_, rfl⟩ := Prod.mk.inj (Option.some.inj hensure)
      obtain ⟨rfl, rfl⟩ := Prod.mk.inj (Option.some.inj hleaf)
      obtain ⟨rest, hrest⟩ := htest hpass
      refine ⟨?_, rfl⟩
      rw [Input.advance, ← hrest, ← String.length_toList, List.drop_left]
  · cases hensure

/-- A word that is read stands in the code. -/
theorem eq_of_keyword {word : String} {input after : Input} {trees : List Tree}
    (h : keyword word input = some (trees, after)) :
    input.rest = word.toList ++ after.rest ∧ trees.head?.map (·.start) = some input.offset := by
  refine eq_of_ensure_leaf (fun hword => ?_) h
  rw [← eq_of_beq hword]
  exact wordAt_isPrefix _

/-- A mark that is read stands in the code. -/
theorem eq_of_mark {symbol : String} {input after : Input} {trees : List Tree}
    (h : mark symbol input = some (trees, after)) : input.rest = symbol.toList ++ after.rest :=
  (eq_of_ensure_leaf (fun hsymbol => symbolAt_isPrefix (eq_of_beq hsymbol)) h).1

theorem exists_isGap_of_gapUpTo {count : Nat} {input after : Input} {trees : List Tree}
    (h : gapUpTo count input = some (trees, after)) :
    ∃ text, IsGap text ∧ input.rest = text ++ after.rest := by
  induction count generalizing input trees with
  | zero =>
      obtain ⟨rfl, rfl⟩ := Prod.mk.inj (Option.some.inj h)
      exact ⟨[], .nil, rfl⟩
  | succ count ih =>
      have hspace : IsGap (input.rest.takeWhile isSpace) :=
        isGap_of_forall fun c hc => List.mem_takeWhile_imp hc
      have hskip : input.rest = input.rest.takeWhile isSpace ++ (skipSpace input).rest := by
        have hcut := List.take_append_drop (input.rest.takeWhile isSpace).length input.rest
        rw [Text.take_length_takeWhile] at hcut
        exact hcut.symm
      rcases gapUpTo_succ_cases h with ⟨rfl, rfl⟩ | ⟨found, between, more, hcomment, hmore, rfl⟩
      · exact ⟨_, hspace, hskip⟩
      · obtain ⟨text, htext, hbetween⟩ := ih hmore
        rw [comment] at hcomment
        split at hcomment
        · next n hlength =>
            obtain ⟨rfl, rfl⟩ := Prod.mk.inj (Option.some.inj hcomment)
            refine ⟨_, hspace.append (.comment (isComment_take hlength) htext), ?_⟩
            rw [List.append_assoc, List.append_assoc, ← hbetween, Input.advance,
              List.take_append_drop]
            exact hskip
        · cases hcomment

/-- What is skipped between tokens is a gap. -/
theorem exists_isGap {reader : Row} {input after : Input} {trees : List Tree}
    (h : next reader input = some (trees, after)) :
    ∃ text between found, IsGap text ∧ input.rest = text ++ between.rest ∧
      reader between = some (found, after) := by
  obtain ⟨comments, between, hgap, hreader⟩ := Reader.bind_eq_some_iff.1 h
  obtain ⟨found, last, hfound, hlast⟩ := Reader.bind_eq_some_iff.1 hreader
  obtain ⟨_, rfl⟩ := Prod.mk.inj (Option.some.inj hlast)
  obtain ⟨text, htext, hrest⟩ := exists_isGap_of_gapUpTo hgap
  exact ⟨text, between, found, htext, hrest, hfound⟩

/-! ### Ends of statements -/

instance {afterExpression : Bool} {count : Nat} :
    Sound code (automaticEndUpTo afterExpression count) := by
  induction count with
  | zero =>
      unfold automaticEndUpTo
      infer_instance
  | succ count ih =>
      refine ⟨fun {input after trees} h hinput => ?_⟩
      simp only [automaticEndUpTo] at h
      split at h
      · obtain ⟨rfl, rfl⟩ := Prod.mk.inj (Option.some.inj h)
        exact ⟨hinput, inferInstance⟩
      · split at h
        · cases h
        · next found between hcomment =>
            split at h
            · next more last hmore =>
                obtain ⟨rfl, rfl⟩ := Prod.mk.inj (Option.some.inj h)
                exact keeps_comment hinput hcomment hmore
            · cases h

instance {afterExpression : Bool} : Sound code (automaticEnd afterExpression) where
  keeps {input after trees} h hinput := by
    have hend : Sound code (automaticEndUpTo afterExpression (input.rest.length + 1)) := inferInstance
    exact hend.keeps h hinput

instance {afterExpression : Bool} : Sound code (semicolon afterExpression) := by
  unfold semicolon
  infer_instance

/-! ### Lists -/

instance {item : Row} [Sound code item] : Sound code (withHoles item) := by
  unfold withHoles
  infer_instance

instance {item : Row} [Sound code item] : Sound code (commaList item) := by
  unfold commaList
  infer_instance

end Syntax

end Inlay
