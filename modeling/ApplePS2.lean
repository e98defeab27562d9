import ApplePS2.Controller.MouseCommand
import ApplePS2.Controller.CommandByte
import ApplePS2.Controller.TestAndSet
import ApplePS2.Controller.MuxProbe
import ApplePS2.Gate.Atomicity
import ApplePS2.Gate.RequestOrder
import ApplePS2.Gate.KeyboardOrder
import ApplePS2.Gate.Completion
import ApplePS2.Gate.ByteUse
import ApplePS2.Keyboard.StuckKey
import ApplePS2.Keyboard.Modifiers
import ApplePS2.Keyboard.Notifications
import ApplePS2.Keyboard.FeatureToggle
import ApplePS2.Keyboard.PowerState
import ApplePS2.Keyboard.ModifierPositions
import ApplePS2.Keyboard.CapsLock
import ApplePS2.Keyboard.Backlight
import ApplePS2.Keyboard.DisplaySleep
import ApplePS2.Keyboard.VersionHandshake
import ApplePS2.Keyboard.CombinationStrings
import ApplePS2.Keyboard.AutoRepeat
import ApplePS2.Keyboard.TableIndexes
import ApplePS2.Touchpad.Framing
import ApplePS2.Touchpad.Vendor
import ApplePS2.Touchpad.Requests
import ApplePS2.Touchpad.ScrollDirection
import ApplePS2.Touchpad.MousePackets
import ApplePS2.Touchpad.TrackPoint
import ApplePS2.Touchpad.FingerCount
import ApplePS2.Touchpad.TurnedOff
import ApplePS2.Touchpad.SynapticsPosition
import ApplePS2.Touchpad.FingersV2
import ApplePS2.Touchpad.WithheldMoves
import ApplePS2.Touchpad.Divisors
import ApplePS2.Touchpad.Inertia
import ApplePS2.Touchpad.SwipeDirection
import ApplePS2.Touchpad.ScrollOpposite
import ApplePS2.Touchpad.ScrollReversal
import ApplePS2.Touchpad.Position
import ApplePS2.Touchpad.TapClick
import ApplePS2.Touchpad.EndPackets
import ApplePS2.Touchpad.MiddleScroll
import ApplePS2.Touchpad.TimeOuts
import ApplePS2.Touchpad.OSVersion
import ApplePS2.Drivers
import ApplePS2.Controller.KeyboardQueue
import ApplePS2.Controller.Clients
import ApplePS2.Touchpad.SlicedCommand
import ApplePS2.Touchpad.EdgeSwipes
import ApplePS2.Touchpad.MulTouch
import ApplePS2.Touchpad.TwoGestures
