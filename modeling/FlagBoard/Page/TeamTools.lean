import FlagBoard.Page.Theme
import FlagBoard.Page.Widget
import FlagBoard.Team.Lab
import FlagBoard.Team.Vpn

/-!
The smaller parts for a team: the start page with its lab network, the menu of VPN slots and the
button that resets the frontend.
-/

namespace FlagBoard.Page

open FlagBoard.Html (Piece element)

/-- The lab network: not known yet, not to be had, or as the platform describes it. -/
def labDetails : Option (Except String Lab) → List Piece
  | none => classed "span" "index-page__loading" [textNode "Loading lab details…"]
  | some (.error _) => classed "span" "index-page__error" [textNode "Lab details unavailable"]
  | some (.ok lab) =>
      let subnet :=
        if lab.hasVpn then
          classed "span" "index-page__subnet"
            (textNode "Lab subnet: " :: element "code" [] [textNode lab.subnet])
        else []
      classed "span" "index-page__mode" [textNode lab.modeLabel] ++ subnet

def startPage (context : Context) (lab : Option (Except String Lab)) : List Piece :=
  let symbol := match context.theme with
    | .dark => "☀"
    | .light => "☾"
  classed "div" "index-page"
    (classed "div" "index-page__lab" (labDetails lab) ++
      classedWith "button" [.ofText "title" "Toggle dark mode"] "btn index-page__theme"
        [textNode symbol])

def slotItem (slot : VpnSlot) : List Piece :=
  classed "li" (withClass "vpn-dropdown__item" "vpn-dropdown__item--used" slot.isUsed)
    (classed "span" "vpn-dropdown__name" [textNode slot.label] ++
      classed "span" "vpn-dropdown__status" [textNode slot.statusLabel] ++
      classed "button" "btn vpn-dropdown__download" [textNode "Download"])

/-- The menu of the VPN slots. Closed, it is only a button. -/
def vpnMenu (menu : VpnMenu) : List Piece :=
  let loading :=
    if menu.loading then classed "div" "vpn-dropdown__loading" [textNode "Loading…"] else []
  let error := match menu.error with
    | some text => classed "div" "vpn-dropdown__error" [textNode text]
    | none => []
  let content :=
    if menu.isOpen then
      classed "div" "vpn-dropdown__menu"
        (loading ++ error ++ classed "ul" "vpn-dropdown__list" (menu.slots.flatMap slotItem))
    else []
  classed "div" (withClass "vpn-dropdown" "vpn-dropdown--open" menu.isOpen)
    (classed "button" "btn vpn-dropdown__toggle" [textNode menu.label] ++ content)

def resetButton (status : ActionStatus) : List Piece :=
  classed "div" "reset-frontend"
    (actionButton "btn reset-frontend__button"
      (if status.busy then "Resetting…" else "Reset frontend") status ++ actionMessage status)

end FlagBoard.Page
