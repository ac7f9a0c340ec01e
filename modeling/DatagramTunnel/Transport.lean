import DatagramTunnel.Transport.Inlet
import DatagramTunnel.Transport.Outlet

/-!
# Transports

A transport is a byte stream in both directions. The two sides share nothing.
-/

namespace DatagramTunnel

/-- A byte stream in both directions. -/
structure Transport where
  inlet : Inlet
  outlet : Outlet
  deriving DecidableEq

end DatagramTunnel
