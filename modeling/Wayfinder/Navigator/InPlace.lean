/-
Navigation in place.

A page may change its own address without being left and entered again: the history gets the new URL,
the context gets the captures and parameters of the new URL, and no middleware runs. That is possible
only for URLs of the route that is shown.
-/
import Wayfinder.Navigator.State

namespace Wayfinder.Navigator

variable {μ κ η : Type} [History η]

/-- Put the URL into the history: behind the entry of the page, which keeps where the page is scrolled
to, or in its place. The result is the context with the URL of the page. -/
def commitInPlace (n : Navigator μ κ η) (context : Context κ) (push : Bool) (url : String) :
    Navigator μ κ η × Context κ :=
  if push then
    let position := n.viewport.position
    let state := { context.state with scroll := some position }
    let history := History.push
      (History.replace n.history { url := context.url, state }) { url }
    ({ n with scroll := n.scroll.record context.url position, history }.report
        (ScrollStore.recordLog context.url position),
      { context with cameFrom := some context.url, url })
  else
    ({ n with history := History.replace n.history { url } }, { context with url })

/-- Change the address of the page that is shown: `push` adds a history entry, otherwise the current
one is rewritten. While a navigation is in progress an ordinary request is queued instead. -/
def inPlace (n : Navigator μ κ η) (push : Bool) (url : String) : Navigator μ κ η × Outcome :=
  let kind : Kind := if push then .push else .replace
  let shown := kind.describe
  if n.phase = .idle then
    match n.active with
    | none => (n, .blocked "No active route" (some url))
    | some page =>
      let resolveLog := n.table.resolveLog url
      let (table, found) := n.table.resolve url
      let n := { n with table }.report resolveLog
      match found.filter (fun m => page.route == some m.index) with
      | none =>
        (n.report [.debug s!"'{url}' leaves the active route, in-place navigation refused"],
          .blocked "URL belongs to another route" (some url))
      | some m =>
        let (n, context) := n.commitInPlace page.context push url
        let key := n.config.parametersKey
        let context := { context with
          parameters := Segment.decodeCaptures m.captures key
          captures := m.captures
          state := {} }
        let n := { n with active := some { page with context } }.report
          (Segment.decodeCapturesLog m.captures key)
        (n.report [.info s!"In-place {shown} to '{url}'"], .success url)
  else
    let n := n.report [.debug s!"In-place navigation to '{url}' queued as {shown}"]
    ({ n with queue := n.queue ++ [{ url, kind }] }, .queued url)

end Wayfinder.Navigator
