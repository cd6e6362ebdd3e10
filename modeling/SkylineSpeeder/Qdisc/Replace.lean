import SkylineSpeeder.Qdisc.Guard

/-!
How the guard turns a root qdisc into fq: `replace_plan`, `unused_major` and `replace_root` of
`guard.rs`.

* `Command`: the `tc qdisc replace` commands it issues;
* `RootQdisc.replacePlan`: what one round runs;
* `QdiscHost`, `replaceRoot`: the two rounds, over any host.
-/

namespace SkylineSpeeder

open Text

/-! ### The plan -/

/-- The tails of `tc qdisc replace dev <interface> ..` that the guard uses: `root mq`,
`root handle <major>: mq`, `root fq` and `parent <parent> fq`. -/
inductive Command where
  | rootMq
  | rootHandleMq (major : ℕ)
  | rootFq
  | parentFq (parent : List Char)
  deriving DecidableEq

/-- `Round`. -/
inductive Round where
  | first
  | fallback
  deriving DecidableEq, Repr

/-- `Plan`. -/
inductive Plan where
  | run (commands : List Command)
  | freshMqNeedsFqDefault
  deriving DecidableEq

namespace RootQdisc

/-- `unused_major`: the first of `8000:` to `fffe:` that nothing uses. -/
def unusedMajor (root : RootQdisc) : Option ℕ :=
  (List.range' 0x8000 0x7fff).find? fun major => major ∉ root.majors

/-- An `mq` that `tc` created. -/
def tcMq (root : RootQdisc) : Prop := root.kind = "mq".toList ∧ root.major ≠ 0

instance (root : RootQdisc) : Decidable root.tcMq := inferInstanceAs (Decidable (_ ∧ _))

/-- The children that are not fq. -/
def odd (root : RootQdisc) : List MqChild :=
  root.children.filter fun child => child.kind ≠ "fq".toList

/-- `replace_plan`. -/
def replacePlan (root : RootQdisc) (txQueues : ℕ) (defaultIsFq : Bool) (round : Round) : Plan :=
  if root.tcMq then
    let childByChild := root.odd.map fun child => Command.parentFq child.parent
    if 1 < root.odd.length ∧ root.odd.length = root.children.length ∧ defaultIsFq = true ∧
        round = .first then
      match root.unusedMajor with
      | some major => .run [.rootHandleMq major]
      | none => .run childByChild
    else .run childByChild
  else if 1 < txQueues then
    if !defaultIsFq then .freshMqNeedsFqDefault else .run [.rootMq]
  else .run [.rootFq]

end RootQdisc

/-! ### The rounds -/

/-- The part of `Host` that `replace_root` uses, on one device: `tx_queues`, `default_qdisc`,
`tc` with a replace, and `read_root`. -/
structure QdiscHost (σ : Type) where
  txQueues : σ → ℕ
  defaultQdisc : σ → Except (List Char) (List Char) × σ
  replace : Command → σ → Except (List Char) Unit × σ
  readRoot : σ → Except (List Char) (Option RootQdisc) × σ

section Rounds

variable {σ : Type} (host : QdiscHost σ) (name label : List Char)

/-- The error when only a fresh `mq` fits and the default is not fq. -/
def leftAlone (summary : List Char) : Except (List Char) (List Char) → List Char
  | .ok kind =>
      label ++ " root qdisc ".toList ++ summary ++ " left alone: default_qdisc is ".toList ++
        kind ++ ", a fresh mq would get ".toList ++ kind ++ " children".toList
  | .error error =>
      label ++ " root qdisc ".toList ++ summary ++
        " left alone: default_qdisc could not be read (".toList ++ error ++
        "), so a fresh mq might not get fq children".toList

/-- The commands of a round, in order; in the second round an error of `tc` comes with what
the first one left. -/
def runCommands (round : Round) (summary : List Char) :
    List Command → σ → Except (List Char) Unit × σ
  | [], s => (.ok (), s)
  | command :: commands, s =>
      match host.replace command s with
      | (.ok _, s) => runCommands round summary commands s
      | (.error error, s) =>
          match round with
          | .first => (.error error, s)
          | .fallback =>
              (.error (label ++ " root qdisc is ".toList ++ summary ++
                " after the first replace: ".toList ++ error), s)

/-- One round. -/
def replaceRound (txQueues : ℕ) (round : Round) (current : RootQdisc) (s : σ) :
    Except (List Char) RootQdisc × σ :=
  let (default, s) := host.defaultQdisc s
  let defaultIsFq := match default with
    | .ok kind => decide (kind = "fq".toList)
    | .error _ => false
  match current.replacePlan txQueues defaultIsFq round with
  | .freshMqNeedsFqDefault => (.error (leftAlone label current.summary default), s)
  | .run commands =>
      match runCommands host label round current.summary commands s with
      | (.error error, s) => (.error error, s)
      | (.ok _, s) =>
          match host.readRoot s with
          | (.error error, s) => (.error error, s)
          | (.ok none, s) =>
              (.error ("tc qdisc show dev ".toList ++ name ++
                " printed no root qdisc after the replace".toList), s)
          | (.ok (some root), s) => (.ok root, s)

/-- The rounds, as long as there is something to replace. -/
def replaceRounds (txQueues : ℕ) : List Round → RootQdisc → σ → Except (List Char) RootQdisc × σ
  | [], current, s => (.ok current, s)
  | round :: rounds, current, s =>
      if current.verdict ≠ .replace then (.ok current, s)
      else
        match replaceRound host name label txQueues round current s with
        | (.error error, s) => (.error error, s)
        | (.ok next, s) => replaceRounds txQueues rounds next s

/-- `replace_root`. -/
def replaceRoot (before : RootQdisc) (s : σ) : Except (List Char) (List Char) × σ :=
  match replaceRounds host name label (host.txQueues s) [.first, .fallback] before s with
  | (.error error, s) => (.error error, s)
  | (.ok current, s) =>
      if current.verdict ≠ .fq then
        (.error (label ++ " root qdisc is still ".toList ++ current.summary ++
          " after replacing ".toList ++ before.summary ++ " with fq".toList), s)
      else (.ok current.summary, s)

end Rounds

end SkylineSpeeder
