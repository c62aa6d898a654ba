import ClusterCensus.Proofs.Observe.Container
import Mathlib.Control.Monad.Basic

/-!
# Image references are split at the last colon

A reference names a registry, unless it is the default one, then a path and possibly a tag. The
registry may have a port, which stands behind a colon as the tag does. So the last colon is that of
the tag when there is a tag, and that of the port when there is a port only; a reference with
neither has no colon.

## Main result

`reference_is_split_at_last_colon`: what is reported of a container with such a reference.
`port_without_tag_is_split_off`: a reference that is cut at its port.
-/
namespace ClusterCensus

/-! ### References -/

structure ImageRegistry where
  host : List Char
  port : Option (List Char)

/-- An image, where it is kept and which version of it. -/
structure ImageReference where
  registry : Option ImageRegistry
  path : List (List Char)
  tag : Option (List Char)

namespace ImageReference

/-- The parts of the path, joined by slashes. -/
def pathText (r : ImageReference) : List Char :=
  ['/'].intercalate r.path

/-- The reference without its tag. -/
def name (r : ImageReference) : List Char :=
  match r.registry with
  | none => r.pathText
  | some ⟨host, none⟩ => host ++ '/' :: r.pathText
  | some ⟨host, some port⟩ => host ++ ':' :: port ++ '/' :: r.pathText

def text (r : ImageReference) : List Char :=
  match r.tag with
  | none => r.name
  | some tag => r.name ++ ':' :: tag

def hasPort (r : ImageReference) : Prop :=
  ∃ host port, r.registry = some ⟨host, some port⟩

/-- No part is empty, and colons and slashes are left to the joints. -/
structure IsWellFormed (r : ImageReference) : Prop where
  host : ∀ registry ∈ r.registry, registry.host ≠ [] ∧ ':' ∉ registry.host
  port : ∀ registry ∈ r.registry, ∀ port ∈ registry.port, ∀ c ∈ port, c.isDigit
  path : r.path ≠ [] ∧ ∀ component ∈ r.path, component ≠ [] ∧ ':' ∉ component
  tag : ∀ tag ∈ r.tag, tag ≠ [] ∧ ':' ∉ tag ∧ '/' ∉ tag

end ImageReference

/-! ### Splitting -/

namespace Image

/-- A text is split at a mark behind which there is no other. -/
theorem splitAtLast?_of_last {mark : Char} {before after : List Char} (free : mark ∉ after) :
    splitAtLast? mark (before ++ mark :: after) = some (before, after) := by
  -- The text is read from its end, where what lies behind the mark is passed over.
  have turned : (before ++ mark :: after).reverse = after.reverse ++ mark :: before.reverse := by
    simp
  have passed : ∀ c ∈ after.reverse, (c != mark) = true := by
    intro c member
    rw [bne_iff_ne]
    rintro rfl
    exact free (List.mem_reverse.mp member)
  rw [splitAtLast?, turned, List.dropWhile_append_of_pos passed,
    List.dropWhile_cons_of_neg (by simp), List.takeWhile_append_of_pos passed,
    List.takeWhile_cons_of_neg (by simp)]
  simp

theorem splitAtLast?_of_free {mark : Char} {text : List Char} (free : mark ∉ text) :
    splitAtLast? mark text = none := by
  cases found : splitAtLast? mark text with
  | none => rfl
  | some parts =>
    obtain ⟨before, after⟩ := parts
    obtain ⟨rfl, -⟩ := splitAtLast?_eq_some found
    exact absurd (by simp) free

theorem split_of_last {before after : List Char} (free : ':' ∉ after) :
    split (String.ofList (before ++ ':' :: after)) =
      (String.ofList before, String.ofList after) := by
  simp only [split, String.toList_ofList, splitAtLast?_of_last free]

theorem split_of_free {text : List Char} (free : ':' ∉ text) :
    split (String.ofList text) = (String.ofList text, "") := by
  simp only [split, String.toList_ofList, splitAtLast?_of_free free]

end Image

namespace ImageReference

variable {r : ImageReference}

/-- A mark that is in no part of a path and does not join its parts is not in the path. -/
theorem notMem_intercalate {mark : Char} {parts : List (List Char)}
    (free : ∀ part ∈ parts, mark ∉ part) (other : mark ≠ '/') :
    mark ∉ ['/'].intercalate parts := by
  induction parts with
  | nil => simp
  | cons part rest ih =>
    rw [List.forall_mem_cons] at free
    cases rest with
    | nil => simpa using free.1
    | cons next rest =>
      rw [List.intercalate_cons_cons]
      simp only [List.mem_append, List.mem_singleton, not_or]
      exact ⟨⟨free.1, other⟩, ih free.2⟩

theorem IsWellFormed.pathText (wellFormed : r.IsWellFormed) : ':' ∉ r.pathText :=
  notMem_intercalate (fun component member => (wellFormed.path.2 component member).2) (by decide)

theorem text_of_tag {tag : List Char} (tagged : r.tag = some tag) :
    r.text = r.name ++ ':' :: tag := by
  simp only [text, tagged]

theorem text_of_port {host port : List Char} (untagged : r.tag = none)
    (kept : r.registry = some ⟨host, some port⟩) :
    r.text = host ++ ':' :: (port ++ '/' :: r.pathText) := by
  simp only [text, untagged, name, kept, List.append_assoc, List.cons_append]

section Split

variable (wellFormed : r.IsWellFormed)

include wellFormed

/-- The last colon stands before the tag, since no tag has a colon in it. -/
theorem split_of_tag {tag : List Char} (tagged : r.tag = some tag) :
    Image.split (String.ofList r.text) = (String.ofList r.name, String.ofList tag) := by
  rw [text_of_tag tagged, Image.split_of_last (wellFormed.tag tag tagged).2.1]

/-- Without a tag, the last colon is the one before the port. -/
theorem split_of_port {host port : List Char} (untagged : r.tag = none)
    (kept : r.registry = some ⟨host, some port⟩) :
    Image.split (String.ofList r.text) =
      (String.ofList host, String.ofList (port ++ '/' :: r.pathText)) := by
  have digits : ':' ∉ port := by
    intro member
    exact absurd (wellFormed.port _ kept port rfl _ member) (by decide)
  rw [text_of_port untagged kept, Image.split_of_last]
  simp [digits, wellFormed.pathText]

/-- With neither a tag nor a port there is no colon, and nothing is split. -/
theorem split_of_neither (untagged : r.tag = none) (portless : ¬r.hasPort) :
    Image.split (String.ofList r.text) = (String.ofList r.text, "") := by
  have path := wellFormed.pathText
  have shape : r.text = r.name := by
    simp only [text, untagged]
  refine Image.split_of_free ?_
  rw [shape, name]
  split
  next => exact path
  next host kept => simpa [path] using (wellFormed.host _ kept).2
  next host port kept => exact absurd ⟨host, port, kept⟩ portless

end Split

/-- What is reported of a reference: the name and the tag when there is a tag, the host and the rest
when there is a port only, the whole when there is neither. -/
structure IsReportedAs (r : ImageReference) (image tag : String) : Prop where
  tagged : ∀ own ∈ r.tag, image = String.ofList r.name ∧ tag = String.ofList own
  ported : r.tag = none → ∀ host port, r.registry = some ⟨host, some port⟩ →
    image = String.ofList host ∧ tag = String.ofList (port ++ '/' :: r.pathText)
  plain : r.tag = none → ¬r.hasPort → image = String.ofList r.text ∧ tag = ""
  slash : '/' ∈ tag.toList ↔ r.tag = none ∧ r.hasPort
  rebuilt : tag ≠ "" → image ++ ":" ++ tag = String.ofList r.text

theorem ofList_joined (before after : List Char) :
    String.ofList before ++ ":" ++ String.ofList after =
      String.ofList (before ++ ':' :: after) := by
  rw [← String.toList_inj]
  simp

theorem isReportedAs_split (wellFormed : r.IsWellFormed) {image tag : String}
    (split : Image.split (String.ofList r.text) = (image, tag)) : r.IsReportedAs image tag := by
  cases tagged : r.tag with
  | some own =>
    rw [split_of_tag wellFormed tagged, Prod.mk.injEq] at split
    obtain ⟨rfl, rfl⟩ := split
    have noSlash := (wellFormed.tag own tagged).2.2
    refine ⟨?_, by simp [tagged], by simp [tagged], by simp [tagged, noSlash], ?_⟩
    · rw [tagged]
      rintro _ ⟨⟩
      exact ⟨rfl, rfl⟩
    · intro _
      rw [ofList_joined, text_of_tag tagged]
  | none =>
    -- Without a tag the last colon is that of the port, unless there is no colon at all.
    by_cases ported : r.hasPort
    · obtain ⟨host, port, kept⟩ := ported
      rw [split_of_port wellFormed tagged kept, Prod.mk.injEq] at split
      obtain ⟨rfl, rfl⟩ := split
      refine ⟨by simp [tagged], ?_, fun _ portless => absurd ⟨host, port, kept⟩ portless, ?_, ?_⟩
      · intro _ host' port' kept'
        rw [kept] at kept'
        cases kept'
        exact ⟨rfl, rfl⟩
      · simp [tagged, hasPort, kept]
      · intro _
        rw [ofList_joined, text_of_port tagged kept]
    · rw [split_of_neither wellFormed tagged ported, Prod.mk.injEq] at split
      obtain ⟨rfl, rfl⟩ := split
      refine ⟨by simp [tagged], ?_, fun _ _ => ⟨rfl, rfl⟩, by simp [ported], by simp⟩
      intro _ host port kept
      exact absurd ⟨host, port, kept⟩ ported

end ImageReference

/-! ## Main result -/

/-- A container with a reference is observed whenever it would be without an image, and then the
reference is reported split at its last colon: at the tag if there is one, else at the port if there
is one, else not at all. -/
theorem reference_is_split_at_last_colon {r : ImageReference} (wellFormed : r.IsWellFormed)
    {container : Container} (named : container.image = some (String.ofList r.text))
    (status : ContainerStatus) (state : Option ContainerState) (cpuUsage memoryUsage : String)
    (now : Moment) :
    ((ContainerFacts.observe container status state cpuUsage memoryUsage now).Returns ↔
        (ContainerFacts.observe { container with image := none } status state cpuUsage memoryUsage
          now).Returns) ∧
      ∀ facts, (ContainerFacts.observe container status state cpuUsage memoryUsage now).outcome =
          .ok facts → r.IsReportedAs facts.image facts.imageTag := by
  constructor
  · simp only [ContainerFacts.observe_eq, ← Trace.bind_eq_andThen, Trace.returns_bind_pure_iff]
    rfl
  · intro facts observed
    obtain ⟨amounts, -, rfl⟩ := ContainerFacts.observe_ok_iff.mp observed
    refine ImageReference.isReportedAs_split wellFormed ?_
    simp only [ContainerAmounts.facts, named, Option.getD_some]

namespace Sample

/-- An image of a registry with a port, with its tag. -/
def taggedImage : ImageReference :=
  ⟨some ⟨"registry.local".toList, some "5000".toList⟩, ["team".toList, "app".toList],
    some "v2".toList⟩

/-- An image of a registry with a port, without a tag. -/
def portedImage : ImageReference :=
  ⟨some ⟨"localhost".toList, some "5000".toList⟩, ["app".toList], none⟩

end Sample

/-- The tag is split off behind a port. -/
theorem reference_is_split_at_last_colon_sample :
    Sample.taggedImage.IsWellFormed ∧
      String.ofList Sample.taggedImage.text = "registry.local:5000/team/app:v2" ∧
      ∃ facts, (ContainerFacts.observe ⟨none, some "registry.local:5000/team/app:v2", none⟩
          ⟨none, none, none, none, none⟩ none "" "" ⟨0, none⟩).outcome = .ok facts ∧
        facts.image = "registry.local:5000/team/app" ∧ facts.imageTag = "v2" := by
  have wellFormed : Sample.taggedImage.IsWellFormed := by
    refine ⟨?_, ?_, ?_, ?_⟩ <;> simp [Sample.taggedImage]
  have written : String.ofList Sample.taggedImage.text = "registry.local:5000/team/app:v2" := by
    decide +kernel
  obtain ⟨facts, observed⟩ : ∃ facts, (ContainerFacts.observe
      ⟨none, some "registry.local:5000/team/app:v2", none⟩ ⟨none, none, none, none, none⟩ none "" ""
      ⟨0, none⟩).outcome = .ok facts := ⟨_, rfl⟩
  have split := (reference_is_split_at_last_colon wellFormed (congrArg some written.symm) _ _ _ _
    _).2 facts observed
  refine ⟨wellFormed, written, facts, observed, ?_⟩
  obtain ⟨image, tag⟩ := split.tagged _ rfl
  exact ⟨image.trans (by decide +kernel), tag.trans (by decide +kernel)⟩

/-- Without a tag, the port and the path are reported as the tag. -/
theorem port_without_tag_is_split_off :
    Sample.portedImage.IsWellFormed ∧ Sample.portedImage.tag = none ∧
      String.ofList Sample.portedImage.text = "localhost:5000/app" ∧
      ∃ facts, (ContainerFacts.observe ⟨some "web", some "localhost:5000/app", none⟩
          ⟨some "web", none, none, none, none⟩ none "" "" ⟨0, none⟩).outcome = .ok facts ∧
        facts.image = "localhost" ∧ facts.imageTag = "5000/app" := by
  refine ⟨?_, rfl, by decide +kernel, _, rfl, by decide +kernel, by decide +kernel⟩
  refine ⟨?_, ?_, ?_, ?_⟩ <;> simp [Sample.portedImage]

end ClusterCensus
