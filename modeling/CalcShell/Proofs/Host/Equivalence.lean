import CalcShell.Proofs.Host.Parts

/-!
# Where equality is an equivalence

A resizable row of bytes equals a fixed one and an array, although these two are not equal, so
that equality is no equivalence among arrays and resizable rows of bytes.  Among host values
without the one or the other kind it is symmetric and transitive.  Symmetry only needs this of
what is looked up; without it, all members of a set can be found in another one that has members
which are not found in the first.
-/

namespace CalcShell

/-- If each member of a row meets one of another row, no two of them the same, and the other row is
not longer, then each member of the other row is met as well. -/
theorem exists_meeting {item other : Type} {meets : other → item → Prop}
    {alike : item → item → Prop} {left : List item} {right : List other}
    (found : ∀ sought ∈ left, ∃ member ∈ right, meets member sought)
    (joint : ∀ member ∈ right, ∀ first ∈ left, ∀ second ∈ left,
      meets member first → meets member second → alike first second)
    (apart : left.Pairwise fun earlier later => ¬ alike earlier later)
    (short : right.length ≤ left.length) :
    ∀ member ∈ right, ∃ sought ∈ left, meets member sought := by
  induction left generalizing right with
  | nil =>
      intro member inRight
      rw [List.length_nil, Nat.le_zero, List.length_eq_zero_iff] at short
      rw [short] at inRight
      cases inRight
  | cons sought rest inductionHypothesis =>
      obtain ⟨met, inRight, firstMet⟩ := found sought List.mem_cons_self
      obtain ⟨before, after, rfl⟩ := List.append_of_mem inRight
      obtain ⟨apartFirst, apartRest⟩ := List.pairwise_cons.mp apart
      have others {member : other} (inOthers : member ∈ before ++ after) :
          member ∈ before ++ met :: after := by
        rw [List.mem_append, List.mem_cons]
        exact (List.mem_append.mp inOthers).imp_right Or.inr
      have metByRest : ∀ member ∈ before ++ after, ∃ sought ∈ rest, meets member sought := by
        refine inductionHypothesis (fun second inRest => ?_) (fun member inOthers => ?_)
          apartRest ?_
        · obtain ⟨member, inRight, meetsSecond⟩ := found second (List.mem_cons_of_mem _ inRest)
          refine ⟨member, ?_, meetsSecond⟩
          rw [List.mem_append, List.mem_cons] at inRight
          rw [List.mem_append]
          -- what is met already cannot be met by another one
          refine inRight.imp_right fun inRight => inRight.resolve_left ?_
          rintro rfl
          exact apartFirst second inRest (joint member (by simp) sought List.mem_cons_self second
            (List.mem_cons_of_mem _ inRest) firstMet meetsSecond)
        · exact fun first inRest second inRest' => joint member (others inOthers) first
            (List.mem_cons_of_mem _ inRest) second (List.mem_cons_of_mem _ inRest')
        · simp only [List.length_append, List.length_cons] at short ⊢
          omega
      intro member inRight
      rw [List.mem_append, List.mem_cons] at inRight
      by_cases isMet : member = met
      · exact ⟨sought, List.mem_cons_self, isMet ▸ firstMet⟩
      · obtain ⟨second, inRest, meetsSecond⟩ := metByRest member
          (List.mem_append.mpr (inRight.imp_right fun inRight => inRight.resolve_left isMet))
        exact ⟨second, List.mem_cons_of_mem _ inRest, meetsSecond⟩

theorem forall₂_symm {item : Type} {rel : item → item → Prop} {left right : List item}
    (related : List.Forall₂ rel left right)
    (symm : ∀ first ∈ left, ∀ second ∈ right, rel first second → rel second first) :
    List.Forall₂ rel right left := by
  induction related with
  | nil => exact .nil
  | @cons first second left right heads tails inductionHypothesis =>
      exact .cons (symm first List.mem_cons_self second List.mem_cons_self heads)
        (inductionHypothesis fun first inLeft second inRight =>
          symm first (List.mem_cons_of_mem _ inLeft) second (List.mem_cons_of_mem _ inRight))

theorem forall₂_trans {item : Type} {rel : item → item → Prop} {left middle right : List item}
    (first : List.Forall₂ rel left middle) (second : List.Forall₂ rel middle right)
    (trans : ∀ one ∈ left, ∀ two ∈ middle, ∀ three ∈ right,
      rel one two → rel two three → rel one three) :
    List.Forall₂ rel left right := by
  induction first generalizing right with
  | nil =>
      cases second
      exact .nil
  | @cons one two left middle heads tails inductionHypothesis =>
      cases second with
      | @cons _ three _ right otherHeads otherTails =>
          refine .cons (trans one List.mem_cons_self two List.mem_cons_self three
            List.mem_cons_self heads otherHeads) (inductionHypothesis otherTails ?_)
          exact fun one inLeft two inMiddle three inRight =>
            trans one (List.mem_cons_of_mem _ inLeft) two (List.mem_cons_of_mem _ inMiddle) three
              (List.mem_cons_of_mem _ inRight)

theorem AgreeOn.symm {left right : Option Number.Quantity} (agree : AgreeOn left right) :
    AgreeOn right left := by
  obtain ⟨quantity, isLeft, isRight⟩ := agree
  exact ⟨quantity, isRight, isLeft⟩

theorem AgreeOn.trans {left middle right : Option Number.Quantity} (first : AgreeOn left middle)
    (second : AgreeOn middle right) : AgreeOn left right := by
  obtain ⟨quantity, isLeft, isMiddle⟩ := first
  obtain ⟨other, isMiddle', isRight⟩ := second
  exact ⟨quantity, isLeft, by rw [isRight, ← isMiddle', isMiddle]⟩

theorem sameRange_iff {start stop step start' stop' step' : Int} :
    sameRange start stop step start' stop' step' = true ↔
      rangeLength start stop step = rangeLength start' stop' step' ∧
        (rangeLength start stop step ≠ 0 → start = start' ∧
          (rangeLength start stop step ≠ 1 → step = step')) := by
  simp only [sameRange, Bool.and_eq_true, Bool.or_eq_true, beq_iff_eq, or_iff_not_imp_left, ne_eq]

theorem sameRange_symm {start stop step start' stop' step' : Int}
    (same : sameRange start stop step start' stop' step' = true) :
    sameRange start' stop' step' start stop step = true := by
  rw [sameRange_iff] at same ⊢
  obtain ⟨length, members⟩ := same
  rw [← length]
  exact ⟨rfl, fun some => ⟨(members some).1.symm, fun several => ((members some).2 several).symm⟩⟩

theorem sameRange_trans {start stop step start' stop' step' start'' stop'' step'' : Int}
    (first : sameRange start stop step start' stop' step' = true)
    (second : sameRange start' stop' step' start'' stop'' step'' = true) :
    sameRange start stop step start'' stop'' step'' = true := by
  rw [sameRange_iff] at first second ⊢
  obtain ⟨length, members⟩ := first
  rw [← length] at second
  obtain ⟨otherLength, otherMembers⟩ := second
  refine ⟨otherLength, fun some => ⟨(members some).1.trans (otherMembers some).1, ?_⟩⟩
  exact fun several => ((members some).2 several).trans ((otherMembers some).2 several)

namespace Host

/-- Among the host values of a domain equality is symmetric and transitive. -/
structure IsPartialEquivalence (domain : Host → Prop) : Prop where
  symm : ∀ left right, domain left → domain right → left.Same right → right.Same left
  trans : ∀ left middle right, domain left → domain middle → domain right →
    left.Same middle → middle.Same right → left.Same right

theorem IsPartialEquivalence.restrict {domain smaller : Host → Prop}
    (equivalence : IsPartialEquivalence domain) (within : ∀ host, smaller host → domain host) :
    IsPartialEquivalence smaller :=
  ⟨fun left right leftIn rightIn => equivalence.symm left right (within left leftIn)
      (within right rightIn),
    fun left middle right leftIn middleIn rightIn => equivalence.trans left middle right
      (within left leftIn) (within middle middleIn) (within right rightIn)⟩

variable {left middle right : Host}

/-- Equality turns round if it does so among the parts, and is an equivalence among those that are
looked up. -/
theorem Alike.symm (alike : left.Alike right) (unrepeated : left.IsUnrepeated)
    (parts : ∀ first ∈ left.parts, ∀ second ∈ right.parts,
      (first.Same second → second.Same first) ∧ (second.Same first → first.Same second))
    (keys : IsPartialEquivalence fun key => key ∈ left.keyParts ∨ key ∈ right.keyParts) :
    right.Alike left := by
  cases alike with
  | null => exact .null
  | text content => exact .text content
  | list items =>
      exact .list (forall₂_symm items fun first inLeft second inRight =>
        (parts first inLeft second inRight).1)
  | tuple items =>
      exact .tuple (forall₂_symm items fun first inLeft second inRight =>
        (parts first inLeft second inRight).1)
  | @set frozen otherFrozen left right length found =>
      refine .set length.symm fun member inRight => ?_
      obtain ⟨sought, inLeft, same⟩ := exists_meeting found
        (fun member inRight first inLeft second inLeft' sameFirst sameSecond =>
          keys.trans first member second (Or.inl inLeft) (Or.inr inRight) (Or.inl inLeft')
            (keys.symm member first (Or.inr inRight) (Or.inl inLeft) sameFirst) sameSecond)
        unrepeated (Nat.le_of_eq length.symm) member inRight
      exact ⟨sought, inLeft, (parts sought inLeft member inRight).2 same⟩
  | @map left right length found =>
      have apart : left.Pairwise fun earlier later => ¬ earlier.1.Same later.1 :=
        List.pairwise_map.mp unrepeated
      have leftKey {entry : Host × Host} (inLeft : entry ∈ left) :=
        Or.inl (b := entry.1 ∈ (Host.map right).keyParts) (key_mem_keyParts inLeft)
      have rightKey {entry : Host × Host} (inRight : entry ∈ right) :=
        Or.inr (a := entry.1 ∈ (Host.map left).keyParts) (key_mem_keyParts inRight)
      have foundEntry : ∀ sought ∈ left, ∃ member ∈ right,
          member.1.Same sought.1 ∧ member.2.Same sought.2 := by
        intro sought inLeft
        obtain ⟨before, member, after, rfl, _, same⟩ := found sought inLeft
        exact ⟨member, List.mem_append_right _ List.mem_cons_self, same⟩
      refine .map length.symm fun entry inRight => ?_
      obtain ⟨sought, inLeft, sameKey, sameValue⟩ := exists_meeting foundEntry
        (fun member inRight first inLeft second inLeft' sameFirst sameSecond =>
          keys.trans _ _ _ (leftKey inLeft) (rightKey inRight) (leftKey inLeft')
            (keys.symm _ _ (rightKey inRight) (leftKey inLeft) sameFirst.1) sameSecond.1)
        apart (Nat.le_of_eq length.symm) entry inRight
      obtain ⟨before, after, rfl⟩ := List.append_of_mem inLeft
      refine ⟨before, sought, after, rfl, fun earlier inBefore sameEarlier => ?_, ?_, ?_⟩
      · have inLeft' : earlier ∈ before ++ sought :: after := List.mem_append_left _ inBefore
        exact (List.pairwise_append.mp apart).2.2 earlier inBefore sought List.mem_cons_self
          (keys.trans _ _ _ (leftKey inLeft') (rightKey inRight) (leftKey inLeft) sameEarlier
            sameKey)
      · exact (parts _ (key_mem_parts inLeft) _ (key_mem_parts inRight)).2 sameKey
      · exact (parts _ (value_mem_parts inLeft) _ (value_mem_parts inRight)).2 sameValue
  | bytes resizable otherResizable content => exact .bytes otherResizable resizable content
  | storage elements => exact .stored elements
  | stored elements => exact .storage elements
  | array quantities => exact .array (forall₂_symm quantities fun _ _ _ _ => AgreeOn.symm)
  | range members => exact .range (sameRange_symm members)
  | object className text => exact .object className text
  | tagged raw tag customName =>
      exact .tagged ((parts _ List.mem_cons_self _ List.mem_cons_self).1 raw) tag customName
  | number quantity => exact .number quantity.symm

/-- An array and a resizable row of bytes are the two kinds that do not go together. -/
def IsStored (cls : HostClass) : Prop :=
  cls = .array ∨ cls = .byteArray

theorem IsStored.absurd {cls : HostClass} (stored : IsStored cls) (notArray : HostClass.array ≠ cls)
    (notByteArray : HostClass.byteArray ≠ cls) : False :=
  Or.elim stored (fun isArray => notArray isArray.symm) fun isByteArray =>
    notByteArray isByteArray.symm

/-- Only a number equals a number. -/
theorem Alike.agreeOn {quantity : Number.Quantity} (alike : left.Alike right)
    (isNumber : left.quantity? = some quantity) : AgreeOn left.quantity? right.quantity? := by
  cases alike with
  | number quantity => exact quantity
  | _ => cases isNumber

/-- What is looked up for a key is looked up for an equal one. -/
theorem IsBoundTo.trans {entries : List (Host × Host)} {key value otherKey otherValue : Host}
    (bound : IsBoundTo entries key value)
    (before : ∀ entry ∈ entries, entry.1.Same otherKey → entry.1.Same key)
    (keys : ∀ entry ∈ entries, entry.1.Same key → entry.1.Same otherKey)
    (values : ∀ entry ∈ entries, entry.2.Same value → entry.2.Same otherValue) :
    IsBoundTo entries otherKey otherValue := by
  obtain ⟨earlier, entry, after, rfl, notEarlier, sameKey, sameValue⟩ := bound
  have inEntries : entry ∈ earlier ++ entry :: after :=
    List.mem_append_right _ List.mem_cons_self
  refine ⟨earlier, entry, after, rfl, fun first inEarlier sameFirst => ?_,
    keys entry inEntries sameKey, values entry inEntries sameValue⟩
  exact notEarlier first inEarlier (before first (List.mem_append_left _ inEarlier) sameFirst)

/-- Equality is transitive if it is an equivalence among the parts and arrays or resizable rows of
bytes do not occur. -/
theorem Alike.trans {cls : HostClass} (stored : IsStored cls) (leftCls : left.cls ≠ cls)
    (middleCls : middle.cls ≠ cls) (rightCls : right.cls ≠ cls) {domain : Host → Prop}
    (equivalence : IsPartialEquivalence domain) (leftParts : ∀ part ∈ left.parts, domain part)
    (middleParts : ∀ part ∈ middle.parts, domain part)
    (rightParts : ∀ part ∈ right.parts, domain part) (first : left.Alike middle)
    (second : middle.Alike right) : left.Alike right := by
  have itemsTrans : ∀ one ∈ left.parts, ∀ two ∈ middle.parts, ∀ three ∈ right.parts,
      one.Same two → two.Same three → one.Same three :=
    fun one inLeft two inMiddle three inRight => equivalence.trans one two three
      (leftParts one inLeft) (middleParts two inMiddle) (rightParts three inRight)
  cases first with
  | null => exact second
  | text content => exact second
  | list items =>
      cases second with
      | list otherItems => exact .list (forall₂_trans items otherItems itemsTrans)
      | number quantity => exact .number quantity
  | tuple items =>
      cases second with
      | tuple otherItems => exact .tuple (forall₂_trans items otherItems itemsTrans)
      | number quantity => exact .number quantity
  | set length found =>
      cases second with
      | set otherLength otherFound =>
          refine .set (length.trans otherLength) fun sought inLeft => ?_
          obtain ⟨member, inMiddle, same⟩ := found sought inLeft
          obtain ⟨other, inRight, otherSame⟩ := otherFound member inMiddle
          exact ⟨other, inRight, equivalence.trans _ _ _ (rightParts other inRight)
            (middleParts member inMiddle) (leftParts sought inLeft) otherSame same⟩
      | number quantity => exact .number quantity
  | map length found =>
      cases second with
      | map otherLength otherFound =>
          refine .map (length.trans otherLength) fun entry inLeft => ?_
          obtain ⟨before, member, after, rfl, _, sameKey, sameValue⟩ := found entry inLeft
          have inMiddle : member ∈ before ++ member :: after :=
            List.mem_append_right _ List.mem_cons_self
          have leftKey := leftParts _ (key_mem_parts inLeft)
          have leftValue := leftParts _ (value_mem_parts inLeft)
          have middleKey := middleParts _ (key_mem_parts inMiddle)
          have middleValue := middleParts _ (value_mem_parts inMiddle)
          have otherKey := equivalence.symm _ _ middleKey leftKey sameKey
          refine (otherFound member inMiddle).trans (fun other inRight same => ?_)
            (fun other inRight same => ?_) fun other inRight same => ?_
          · exact equivalence.trans _ _ _ (rightParts _ (key_mem_parts inRight)) leftKey middleKey
              same otherKey
          · exact equivalence.trans _ _ _ (rightParts _ (key_mem_parts inRight)) middleKey leftKey
              same sameKey
          · exact equivalence.trans _ _ _ (rightParts _ (value_mem_parts inRight)) middleValue
              leftValue same sameValue
      | number quantity => exact .number quantity
  | bytes resizable otherResizable content =>
      cases second with
      | bytes _ lastResizable _ => exact .bytes resizable lastResizable content
      | storage elements => exact (stored.absurd rightCls middleCls).elim
      | number quantity => exact .number quantity
  | storage elements => exact (stored.absurd middleCls leftCls).elim
  | stored elements => exact (stored.absurd leftCls middleCls).elim
  | array quantities =>
      cases second with
      | stored elements => exact (stored.absurd middleCls rightCls).elim
      | array otherQuantities =>
          exact .array (forall₂_trans quantities otherQuantities
            fun _ _ _ _ _ _ => AgreeOn.trans)
      | number quantity => exact .number quantity
  | range members =>
      cases second with
      | range otherMembers => exact .range (sameRange_trans members otherMembers)
      | number quantity => exact .number quantity
  | object className text => exact second
  | tagged raw tag customName =>
      cases second with
      | tagged otherRaw _ _ =>
          exact .tagged (itemsTrans _ List.mem_cons_self _ List.mem_cons_self _ List.mem_cons_self
            raw otherRaw) tag customName
      | number quantity => exact .number quantity
  | number quantity =>
      have ⟨_, _, isMiddle⟩ := quantity
      exact .number (quantity.trans (second.agreeOn isMiddle))

theorem isPartialEquivalence_of_lacks {cls : HostClass} (stored : IsStored cls) (bound : Nat) :
    IsPartialEquivalence fun host =>
      host.Everywhere IsUnrepeated ∧ host.Lacks cls ∧ sizeOf host < bound := by
  induction bound with
  | zero => exact ⟨fun _ _ small => absurd small.2.2 (Nat.not_lt_zero _),
      fun _ _ _ small => absurd small.2.2 (Nat.not_lt_zero _)⟩
  | succ bound equivalence =>
      have partOf {host part : Host} (given : host.Everywhere IsUnrepeated ∧ host.Lacks cls ∧
          sizeOf host < bound + 1) (member : part ∈ host.parts) :
          part.Everywhere IsUnrepeated ∧ part.Lacks cls ∧ sizeOf part < bound :=
        ⟨given.1.inside member, given.2.1.inside member, by
          have smaller := sizeOf_lt_of_mem_parts member
          omega⟩
      refine ⟨fun left right leftGiven rightGiven same => ?_,
        fun left middle right leftGiven middleGiven rightGiven first second => ?_⟩
      · rw [same_iff] at same ⊢
        refine same.symm leftGiven.1.here (fun first inLeft second inRight => ?_) ?_
        · have firstGiven := partOf leftGiven inLeft
          have secondGiven := partOf rightGiven inRight
          exact ⟨equivalence.symm _ _ firstGiven secondGiven,
            equivalence.symm _ _ secondGiven firstGiven⟩
        · refine equivalence.restrict fun key inKeys => ?_
          exact inKeys.elim (fun inLeft => partOf leftGiven (mem_parts_of_mem_keyParts inLeft))
            fun inRight => partOf rightGiven (mem_parts_of_mem_keyParts inRight)
      · rw [same_iff] at first second ⊢
        exact Alike.trans stored leftGiven.2.1.here middleGiven.2.1.here rightGiven.2.1.here
          equivalence (fun _ => partOf leftGiven) (fun _ => partOf middleGiven)
          (fun _ => partOf rightGiven) first second

section Laws

variable {cls : HostClass} (stored : IsStored cls)

include stored

/-- Equality is transitive among host values without arrays, and among those without resizable rows
of bytes. -/
theorem Same.trans (leftMade : left.Everywhere IsUnrepeated)
    (middleMade : middle.Everywhere IsUnrepeated) (rightMade : right.Everywhere IsUnrepeated)
    (leftLacks : left.Lacks cls) (middleLacks : middle.Lacks cls) (rightLacks : right.Lacks cls)
    (first : left.Same middle) (second : middle.Same right) : left.Same right :=
  (isPartialEquivalence_of_lacks stored
    (sizeOf left + sizeOf middle + sizeOf right + 1)).trans left middle right
    ⟨leftMade, leftLacks, by omega⟩ ⟨middleMade, middleLacks, by omega⟩
    ⟨rightMade, rightLacks, by omega⟩ first second

end Laws

end Host

end CalcShell
