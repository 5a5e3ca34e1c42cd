/-
**The loops of a syntax tree.**

Every construct of the grammar is put together from others in the ways of `Inlay/Proofs/Readers.lean`, so the
loops in its trees stand at headers of the code as soon as those of its parts do.  One construct makes loops
of its own, and it starts with the header that the others must have.  The grammar is tied to a knot of a
given depth, and by induction on the depth the loops of every tree stand at headers; leaving tokens out and
adding rows and columns changes nothing about that.

Main definitions:

* `Inlay.SyntaxReader.ShowsHeaders` — the loops of the tree of a code stand at its headers.

Main results:

* `Inlay.Syntax.exists_loopHeader` — **a loop that is read starts with its header**;
* `Inlay.Syntax.sound_grammar` — the constructs of the grammar, to any depth;
* `Inlay.Syntax.exists_header_of_program` — the loops of a concrete tree;
* `Inlay.readSyntax_eq` — a code always has a syntax tree, that of its concrete tree;
* `Inlay.showsHeaders_readSyntax` — **the loops of a syntax tree stand at headers of the code**.
-/
import Inlay.Proofs.Findings
import Inlay.Proofs.Readers
import Inlay.Proofs.Traversal
import Inlay.Syntax.Program

set_option autoImplicit false
-- every part of a construct is an instance, and some constructs have many parts
set_option synthInstance.maxSize 512

namespace Inlay

namespace Syntax

variable {code : List Char} {self : Grammar} [hself : ∀ goal, Sound code (self goal)]

/-! ### Bindings -/

instance : Sound code (propertyName self) := by
  unfold propertyName computedName
  infer_instance

instance {allowIn : Bool} : Sound code (initializer self allowIn) := by
  unfold initializer
  infer_instance

instance : Sound code (restPattern self) := by
  unfold restPattern
  infer_instance

instance : Sound code (patternTarget self) := by
  unfold patternTarget
  -- which construct is read depends on what comes next, and all of them will do
  refine @Sound.rest_bind _ _ fun rest => ?_
  split <;> infer_instance

instance : Sound code (patternElement self) := by
  unfold patternElement
  infer_instance

instance : Sound code (arrayPattern self) := by
  unfold arrayPattern
  infer_instance

instance : Sound code (objectPattern self) := by
  unfold objectPattern pairPattern assignmentInPattern
  infer_instance

instance : Sound code (binding self) := by
  unfold binding
  infer_instance

/-! ### Types -/

instance : Sound code (typeClause self) := by
  unfold typeClause
  infer_instance

instance : Sound code (typeArguments self) := by
  unfold typeArguments
  infer_instance

instance : Sound code (typeParameters self) := by
  unfold typeParameters typeParameter
  infer_instance

instance : Sound code accessibility := by
  unfold accessibility
  infer_instance

instance {word nameStart : Row} [Sound code word] [Sound code nameStart] :
    Sound code (modifier word nameStart) := by
  unfold modifier
  infer_instance

instance : Sound code (decorator self) := by
  unfold decorator
  infer_instance

instance : Sound code (parameter self) where
  keeps {input after trees} h hinput := by
    unfold parameter at h
    exact (inferInstance : Sound code (_ <|> _)).keeps h hinput

instance : Sound code (formalParameters self) := by
  unfold formalParameters
  infer_instance

instance : Sound code (callSignature self) := by
  unfold callSignature
  infer_instance

instance : Sound code (indexSignature self) := by
  unfold indexSignature mappedClause
  infer_instance

instance {kind : String} : Sound code (members kind self) := by
  unfold members bareSignature methodSignature propertySignature
  infer_instance

instance : Sound code (postfixType self) := by
  unfold postfixType primaryType primaryType.leafOf predefined literalType namedType qualifiedType typeQuery
    templateType tupleElement
  infer_instance

instance {count : Nat} : Sound code (prefixedType self count) := by
  induction count with
  | zero =>
      unfold prefixedType
      infer_instance
  | succ count ih =>
      unfold prefixedType
      infer_instance

instance : Sound code (unionType self) := by
  unfold unionType markedTypes
  infer_instance

instance : Sound code (type self) := by
  unfold type functionType typePredicate
  infer_instance

/-! ### Functions and classes -/

instance : Sound code (functionBody self) := by
  unfold functionBody
  infer_instance

instance {isGenerator : Bool} : Sound code (functionHead isGenerator) := by
  unfold functionHead
  infer_instance

instance : Sound code (functionDeclaration self) := by
  unfold functionDeclaration
  infer_instance

instance : Sound code memberModifiers := by
  unfold memberModifiers memberStart
  infer_instance

instance : Sound code (methodDefinition self) := by
  unfold methodDefinition
  infer_instance

instance : Sound code (classTail self) := by
  unfold classTail classHeritage className classMember memberSignature fieldDefinition
  infer_instance

instance : Sound code (classExpression self) := by
  unfold classExpression
  infer_instance

instance : Sound code (classDeclaration self) := by
  unfold classDeclaration
  infer_instance

/-! ### Operands -/

instance : Sound code (spread self) := by
  unfold spread
  infer_instance

instance : Sound code atEnd := by
  unfold atEnd
  infer_instance

instance : Sound code (template self) := by
  unfold template substitution
  infer_instance

instance : Sound code (parenthesized self) := by
  unfold parenthesized
  infer_instance

instance : Sound code (arguments self) := by
  unfold arguments
  infer_instance

instance : Sound code optionalChain := by
  unfold optionalChain
  infer_instance

instance {front : List Tree} [Shown code front] : Sound code (memberSuffix self front) := by
  unfold memberSuffix
  infer_instance

instance {primary : Row} [Sound code primary] : Sound code (wordOperand self primary) := by
  unfold wordOperand functionExpression construction
  refine @Sound.rest_bind _ _ fun rest => ?_
  split <;> infer_instance

instance {primary : Row} [Sound code primary] : Sound code (operand self primary) := by
  unfold operand array object propertyPair
  refine @Sound.rest_bind _ _ fun rest => ?_
  split <;> infer_instance

instance {count : Nat} : Sound code (primaryUpTo self count) := by
  induction count with
  | zero =>
      unfold primaryUpTo
      infer_instance
  | succ count ih =>
      unfold primaryUpTo
      infer_instance

instance : Sound code (reference self) := by
  unfold reference primary callSuffix presentSuffix
  infer_instance

/-! ### Expressions -/

instance : Sound code (unary self) := by
  unfold unary
  refine @Sound.rest_bind _ _ fun rest => ?_
  repeat' split
  all_goals infer_instance

/-- The operators of the grammar are tokens. -/
theorem sound_operatorAt {allowIn : Bool} {rest : List Char} {operator : Row} {strength : Strength}
    (h : operatorAt allowIn rest = some (operator, strength)) : Sound code operator := by
  unfold operatorAt at h
  split at h
  · obtain ⟨_, _, heq⟩ := Option.map_eq_some_iff.1 h
    obtain ⟨rfl, rfl⟩ := Prod.mk.inj heq
    infer_instance
  · split at h
    · obtain ⟨rfl, rfl⟩ := Prod.mk.inj (Option.some.inj h)
      infer_instance
    · split at h
      · obtain ⟨rfl, rfl⟩ := Prod.mk.inj (Option.some.inj h)
        infer_instance
      · cases h

instance {level : Nat} {allowIn : Bool} {front : List Tree} [Shown code front] :
    Sound code (operatorSuffix self level allowIn front) := by
  unfold operatorSuffix
  have hrest : ∀ comments : ShownTrees code, Sound code (Reader.rest >>= fun rest =>
      match operatorAt allowIn rest with
      | none => Reader.fail
      | some (operator, strength) =>
        let right := if strength.fromRight then strength.level else strength.level + 1
        if level ≤ strength.level then
          widen "binary_expression" (withField "left" front ++ comments.val)
            (row [field "operator" operator, next (field "right" (self (.operation right allowIn)))])
        else Reader.fail) := by
    intro comments
    refine @Sound.rest_bind _ _ fun rest => ?_
    split
    · infer_instance
    · next operator strength hoperator =>
        have hsound : Sound code operator := sound_operatorAt hoperator
        infer_instance
  infer_instance

instance {level : Nat} {allowIn : Bool} : Sound code (operation self level allowIn) := by
  unfold operation typeSuffix
  infer_instance

instance {allowIn : Bool} : Sound code (arrowFunction self allowIn) := by
  unfold arrowFunction
  have hbody : Sound code (Reader.rest >>= fun rest =>
      match rest with
      | '{' :: _ => self .block
      | _ => self (.expression allowIn)) := by
    refine @Sound.rest_bind _ _ fun rest => ?_
    split <;> infer_instance
  infer_instance

instance {allowIn : Bool} : Sound code (expression self allowIn) := by
  unfold expression conditional assignmentSuffix destructuring yielding
  infer_instance

instance : Sound code (sequence self) := by
  unfold sequence
  infer_instance

/-! ### Declarations -/

instance : Sound code (declarationTail self) := by
  unfold declarationTail declarator strayEquals
  infer_instance

instance {word : String} : Sound code (declares word) := by
  unfold declares
  infer_instance

instance : Sound code (declaration self) := by
  unfold declaration
  infer_instance

instance : Sound code (interface self) := by
  unfold interface
  infer_instance

instance {inner : Row} [Sound code inner] : Sound code (ambient self inner) := by
  unfold ambient
  infer_instance

instance : Sound code (anyDeclaration self) := by
  unfold anyDeclaration enumeration enumMember typeAlias namespaceDeclaration dottedName
  infer_instance

instance : Sound code fromClause := by
  unfold fromClause
  infer_instance

instance {kind : String} : Sound code (specifier kind) := by
  unfold specifier
  infer_instance

instance {listKind kind : String} : Sound code (specifiers listKind kind) := by
  unfold specifiers
  infer_instance

instance : Sound code importStatement := by
  unfold importStatement namespaceImport
  infer_instance

instance : Sound code (exportStatement self) := by
  unfold exportStatement
  infer_instance

/-! ### Statements -/

instance : Sound code emptyStatement := by
  unfold emptyStatement
  infer_instance

instance : Sound code labelName := by
  unfold labelName
  infer_instance

instance : Sound code (expressionStatement self) := by
  unfold expressionStatement
  infer_instance

/-! ### Loops -/

/-- **A loop over a collection starts with its header.** -/
theorem exists_loopHeader {rest : List Row} {input after : Input} {trees : List Tree}
    (hinput : input.LeftOf code)
    (h : row (keyword "for" :: optional (next (keyword "await")) :: next (mark "(") :: rest) input =
      some (trees, after)) :
    trees.head?.map (·.start) = some input.offset ∧ ∃ gap, LoopHeader code input.offset gap := by
  obtain ⟨forTrees, between, _, hfor, hbehind, rfl⟩ := exists_of_row_cons h
  obtain ⟨awaitTrees, behind, _, hawait, hopen, rfl⟩ := exists_of_row_cons hbehind
  obtain ⟨openTrees, last, _, hparenthesis, _, rfl⟩ := exists_of_row_cons hopen
  obtain ⟨hword, hstart⟩ := eq_of_keyword hfor
  obtain ⟨text, here, _, htext, hbehindText, hmark⟩ := exists_isGap hparenthesis
  have hgap : ∃ gap, IsLoopGap gap ∧ between.rest = gap ++ here.rest := by
    rcases Reader.orElse_eq_some hawait with hawait | hnothing
    · obtain ⟨before, there, _, hbefore, hbetween, hkeyword⟩ := exists_isGap hawait
      refine ⟨before ++ ("await".toList ++ text), Or.inr ⟨before, text, rfl, hbefore, htext⟩, ?_⟩
      rw [hbetween, (eq_of_keyword hkeyword).1, hbehindText, List.append_assoc, List.append_assoc]
    · obtain ⟨_, rfl⟩ := Prod.mk.inj (Option.some.inj hnothing)
      exact ⟨text, Or.inl htext, hbehindText⟩
  obtain ⟨gap, hgap, hbetween⟩ := hgap
  obtain ⟨front, hcode, hoffset⟩ := hinput
  refine ⟨?_, gap, front, last.rest, ?_, hoffset, hgap⟩
  · rw [List.head?_append, Option.map_or, hstart, Option.some_or]
  · rw [hcode, hword, hbetween, eq_of_mark hmark]
    rfl

instance : Sound code (collectionLoop self) where
  keeps {input after trees} h hinput := by
    unfold collectionLoop loopOperator at h
    obtain ⟨children, stop, hchildren, rfl⟩ := exists_of_node h
    obtain ⟨hafter, hshown⟩ := Sound.keeps hchildren hinput
    obtain ⟨hstart, gap, hheader⟩ := exists_loopHeader hinput hchildren
    refine ⟨hafter, shown_singleton hshown fun _ => ⟨gap, ?_⟩⟩
    show LoopHeader code ((children.head?.map (·.start)).getD input.offset) gap
    rw [hstart]
    exact hheader

/-! ### Lists of statements -/

instance : Sound code (wordStatement self) := by
  unfold wordStatement ifStatement countingLoop whileStatement doStatement switchStatement tryStatement jump
    handOver withStatement labeled
  refine @Sound.rest_bind _ _ fun rest => ?_
  split <;> infer_instance

instance : Sound code (statement self) := by
  unfold statement
  refine @Sound.rest_bind _ _ fun rest => ?_
  split <;> infer_instance

instance : Sound code strayToken := by
  unfold strayToken
  refine @Sound.rest_bind _ _ fun rest => ?_
  split
  · infer_instance
  · infer_instance
  · next c rest _ =>
      have hsymbol : Sound code (match symbolAt (c :: rest) with
          | some symbol => mark symbol
          | none => leaf (.token c.toString) 1) := by
        split <;> infer_instance
      infer_instance

instance : Sound code (block self) := by
  unfold block statements
  infer_instance

/-! ### The grammar -/

/-- **All constructs of the grammar**, to any depth. -/
instance sound_grammar (depth : Nat) : ∀ goal, Sound code (grammar depth goal) := by
  induction depth with
  | zero =>
      intro goal
      unfold grammar
      infer_instance
  | succ depth ih =>
      intro goal
      have hgoal : Sound code (Syntax.unfold (grammar depth) goal) := by
        cases goal <;> (unfold Syntax.unfold; infer_instance)
      exact ⟨fun h => hgoal.keeps h⟩

instance : Sound code (programRow self) := by
  unfold programRow interpreterLine
  infer_instance

/-- The loops of a concrete tree stand at headers of the code. -/
theorem exists_header_of_program {code : String} {loop : Tree} (hwithin : Tree.Within loop (program code))
    (hkind : loop.kind = .iteration) : ∃ gap, LoopHeader code.toList loop.start gap := by
  have hshown : Shown code.toList (program code).children := by
    unfold program
    dsimp only
    split
    · next children after hread =>
        exact (Sound.keeps hread ⟨[], rfl, rfl⟩).2
    · infer_instance
  cases hwithin with
  | root => cases hkind
  | child hchild hwithin => exact hshown.exists_header _ hchild loop hwithin hkind

end Syntax

/-! ### Syntax trees -/

/-- The location of an offset is at that offset. -/
theorem Tree.offset_place (index : LineIndex) (code : String) (offset : Nat) :
    (Tree.place index code offset).offset = offset := by
  rw [Tree.place]
  cases hlocate : index.locate offset code with
  | none => rfl
  | some location =>
      rw [LineIndex.locate] at hlocate
      split at hlocate
      · split at hlocate
        · cases hlocate
        · obtain ⟨_, _, rfl⟩ := Option.map_eq_some_iff.1 hlocate
          rfl
      · cases hlocate

/-- Only a loop becomes a loop. -/
theorem Tree.eq_iteration_of_reducedKind {kind : TreeKind} {children : List Node} {loop : IterationKind}
    {declaration : Option String} (h : Tree.reducedKind kind children = .iteration loop declaration) :
    kind = .iteration := by
  cases kind with
  | iteration => rfl
  | _ => cases h

/-- The loops of a node that is made from a concrete tree are made from its loops. -/
theorem exists_tree_of_within (index : LineIndex) (code : String) {loop node : Node}
    {kind : IterationKind} {declaration : Option String} (hwithin : Node.Within loop node)
    (hkind : loop.kind = .iteration kind declaration) :
    ∀ (tree : Tree) (role : Option String),
      node = { tree.fold (Tree.reduce index code) with field := role } →
      ∃ place, Tree.Within place tree ∧ place.kind = .iteration ∧
        loop.range.start.offset = place.start := by
  induction hwithin with
  | root =>
      rintro tree role rfl
      rw [Tree.fold_eq] at hkind ⊢
      exact ⟨tree, .root, Tree.eq_iteration_of_reducedKind hkind, Tree.offset_place index code tree.start⟩
  | child hchild _ ih =>
      rintro tree role rfl
      rw [Tree.fold_eq] at hchild
      obtain ⟨hmem, _⟩ := List.mem_filter.1 hchild
      rw [List.map_map] at hmem
      obtain ⟨subtree, hsubtree, rfl⟩ := List.mem_map.1 hmem
      obtain ⟨place, hplace, hfacts⟩ := ih subtree subtree.field rfl
      exact ⟨place, .child hsubtree hplace, hfacts⟩

/-- A code always has a syntax tree. -/
theorem readSyntax_eq (code : String) :
    readSyntax code =
      .ok ((Syntax.program code).fold (Tree.reduce (LineIndex.ofText code) code)) := by
  delta readSyntax
  rw [Tree.foldUp_eq]

/-- What the grammar says of the loops of a tree: each of them stands at a header of the code. -/
def SyntaxReader.ShowsHeaders (reader : SyntaxReader) (code : String) : Prop :=
  ∀ root, reader code = .ok root →
    ∀ loop kind declaration, Node.Within loop root → loop.kind = .iteration kind declaration →
      ∃ gap, Syntax.LoopHeader code.toList loop.range.start.offset gap

/-- **The loops of a syntax tree stand at headers of the code.** -/
theorem showsHeaders_readSyntax (code : String) : SyntaxReader.ShowsHeaders readSyntax code := by
  intro root hroot loop kind declaration hwithin hkind
  rw [readSyntax_eq] at hroot
  obtain rfl := Except.ok.inj hroot
  obtain ⟨tree, htree, hiteration, hoffset⟩ :=
    exists_tree_of_within (LineIndex.ofText code) code hwithin hkind (Syntax.program code) _ rfl
  rw [hoffset]
  exact Syntax.exists_header_of_program htree hiteration

end Inlay
