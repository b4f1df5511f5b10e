import Freshness.Unicode.CaseMap

/-!
# Case folding

Case folding maps characters that differ in case only to one representative. The table follows
version 16.0 of the standard, like every table that patterns ask.
-/

namespace Freshness.Unicode

/-- The simple case folding of every character that folds to another one. -/
def foldings : CaseMap := CaseMap.decode
  "41 1a 61 5a 1 3bc a 17 e0 1 7 f8 21 1 101 1 1 103 1 1 105 1 1 107 1 1 109 1 1 10b 1 1 10d 1
  1 10f 1 1 111 1 1 113 1 1 115 1 1 117 1 1 119 1 1 11b 1 1 11d 1 1 11f 1 1 121 1 1 123 1 1
  125 1 1 127 1 1 129 1 1 12b 1 1 12d 1 1 12f 3 1 133 1 1 135 1 1 137 2 1 13a 1 1 13c 1 1 13e
  1 1 140 1 1 142 1 1 144 1 1 146 1 1 148 2 1 14b 1 1 14d 1 1 14f 1 1 151 1 1 153 1 1 155 1 1
  157 1 1 159 1 1 15b 1 1 15d 1 1 15f 1 1 161 1 1 163 1 1 165 1 1 167 1 1 169 1 1 16b 1 1 16d
  1 1 16f 1 1 171 1 1 173 1 1 175 1 1 177 1 1 ff 0 1 17a 1 1 17c 1 1 17e 1 1 73 1 1 253 0 1
  183 1 1 185 1 1 254 0 1 188 1 2 256 0 1 18c 2 1 1dd 0 1 259 0 1 25b 0 1 192 1 1 260 0 1 263
  1 1 269 0 1 268 0 1 199 3 1 26f 0 1 272 1 1 275 0 1 1a1 1 1 1a3 1 1 1a5 1 1 280 0 1 1a8 1 1
  283 2 1 1ad 1 1 288 0 1 1b0 1 2 28a 0 1 1b4 1 1 1b6 1 1 292 0 1 1b9 3 1 1bd 7 1 1c6 0 1 1c6
  1 1 1c9 0 1 1c9 1 1 1cc 0 1 1cc 1 1 1ce 1 1 1d0 1 1 1d2 1 1 1d4 1 1 1d6 1 1 1d8 1 1 1da 1 1
  1dc 2 1 1df 1 1 1e1 1 1 1e3 1 1 1e5 1 1 1e7 1 1 1e9 1 1 1eb 1 1 1ed 1 1 1ef 2 1 1f3 0 1 1f3
  1 1 1f5 1 1 195 0 1 1bf 0 1 1f9 1 1 1fb 1 1 1fd 1 1 1ff 1 1 201 1 1 203 1 1 205 1 1 207 1 1
  209 1 1 20b 1 1 20d 1 1 20f 1 1 211 1 1 213 1 1 215 1 1 217 1 1 219 1 1 21b 1 1 21d 1 1 21f
  1 1 19e 1 1 223 1 1 225 1 1 227 1 1 229 1 1 22b 1 1 22d 1 1 22f 1 1 231 1 1 233 7 1 2c65 0 1
  23c 1 1 19a 0 1 2c66 2 1 242 1 1 180 0 1 289 0 1 28c 0 1 247 1 1 249 1 1 24b 1 1 24d 1 1 24f
  f6 1 3b9 2a 1 371 1 1 373 3 1 377 8 1 3f3 6 1 3ac 1 3 3ad 1 1 3cc 1 2 3cd 1 11 3b1 1 9 3c3
  16 1 3c3 c 1 3d7 0 1 3b2 0 1 3b8 3 1 3c6 0 1 3c0 1 1 3d9 1 1 3db 1 1 3dd 1 1 3df 1 1 3e1 1 1
  3e3 1 1 3e5 1 1 3e7 1 1 3e9 1 1 3eb 1 1 3ed 1 1 3ef 1 1 3ba 0 1 3c1 2 1 3b8 0 1 3b5 1 1 3f8
  1 1 3f2 0 1 3fb 2 3 37b 0 10 450 0 20 430 30 1 461 1 1 463 1 1 465 1 1 467 1 1 469 1 1 46b 1
  1 46d 1 1 46f 1 1 471 1 1 473 1 1 475 1 1 477 1 1 479 1 1 47b 1 1 47d 1 1 47f 1 1 481 9 1
  48b 1 1 48d 1 1 48f 1 1 491 1 1 493 1 1 495 1 1 497 1 1 499 1 1 49b 1 1 49d 1 1 49f 1 1 4a1
  1 1 4a3 1 1 4a5 1 1 4a7 1 1 4a9 1 1 4ab 1 1 4ad 1 1 4af 1 1 4b1 1 1 4b3 1 1 4b5 1 1 4b7 1 1
  4b9 1 1 4bb 1 1 4bd 1 1 4bf 1 1 4cf 0 1 4c2 1 1 4c4 1 1 4c6 1 1 4c8 1 1 4ca 1 1 4cc 1 1 4ce
  2 1 4d1 1 1 4d3 1 1 4d5 1 1 4d7 1 1 4d9 1 1 4db 1 1 4dd 1 1 4df 1 1 4e1 1 1 4e3 1 1 4e5 1 1
  4e7 1 1 4e9 1 1 4eb 1 1 4ed 1 1 4ef 1 1 4f1 1 1 4f3 1 1 4f5 1 1 4f7 1 1 4f9 1 1 4fb 1 1 4fd
  1 1 4ff 1 1 501 1 1 503 1 1 505 1 1 507 1 1 509 1 1 50b 1 1 50d 1 1 50f 1 1 511 1 1 513 1 1
  515 1 1 517 1 1 519 1 1 51b 1 1 51d 1 1 51f 1 1 521 1 1 523 1 1 525 1 1 527 1 1 529 1 1 52b
  1 1 52d 1 1 52f 2 26 561 b49 26 2d00 1 1 2d27 5 1 2d2d 32a 6 13f0 882 1 432 0 1 434 0 1 43e
  0 2 441 0 1 442 0 1 44a 0 1 463 0 1 a64b 0 1 1c8a 6 2b 10d0 2 3 10fd 140 1 1e01 1 1 1e03 1 1
  1e05 1 1 1e07 1 1 1e09 1 1 1e0b 1 1 1e0d 1 1 1e0f 1 1 1e11 1 1 1e13 1 1 1e15 1 1 1e17 1 1
  1e19 1 1 1e1b 1 1 1e1d 1 1 1e1f 1 1 1e21 1 1 1e23 1 1 1e25 1 1 1e27 1 1 1e29 1 1 1e2b 1 1
  1e2d 1 1 1e2f 1 1 1e31 1 1 1e33 1 1 1e35 1 1 1e37 1 1 1e39 1 1 1e3b 1 1 1e3d 1 1 1e3f 1 1
  1e41 1 1 1e43 1 1 1e45 1 1 1e47 1 1 1e49 1 1 1e4b 1 1 1e4d 1 1 1e4f 1 1 1e51 1 1 1e53 1 1
  1e55 1 1 1e57 1 1 1e59 1 1 1e5b 1 1 1e5d 1 1 1e5f 1 1 1e61 1 1 1e63 1 1 1e65 1 1 1e67 1 1
  1e69 1 1 1e6b 1 1 1e6d 1 1 1e6f 1 1 1e71 1 1 1e73 1 1 1e75 1 1 1e77 1 1 1e79 1 1 1e7b 1 1
  1e7d 1 1 1e7f 1 1 1e81 1 1 1e83 1 1 1e85 1 1 1e87 1 1 1e89 1 1 1e8b 1 1 1e8d 1 1 1e8f 1 1
  1e91 1 1 1e93 1 1 1e95 6 1 1e61 2 1 df 1 1 1ea1 1 1 1ea3 1 1 1ea5 1 1 1ea7 1 1 1ea9 1 1 1eab
  1 1 1ead 1 1 1eaf 1 1 1eb1 1 1 1eb3 1 1 1eb5 1 1 1eb7 1 1 1eb9 1 1 1ebb 1 1 1ebd 1 1 1ebf 1
  1 1ec1 1 1 1ec3 1 1 1ec5 1 1 1ec7 1 1 1ec9 1 1 1ecb 1 1 1ecd 1 1 1ecf 1 1 1ed1 1 1 1ed3 1 1
  1ed5 1 1 1ed7 1 1 1ed9 1 1 1edb 1 1 1edd 1 1 1edf 1 1 1ee1 1 1 1ee3 1 1 1ee5 1 1 1ee7 1 1
  1ee9 1 1 1eeb 1 1 1eed 1 1 1eef 1 1 1ef1 1 1 1ef3 1 1 1ef5 1 1 1ef7 1 1 1ef9 1 1 1efb 1 1
  1efd 1 1 1eff 9 8 1f00 8 6 1f10 a 8 1f20 8 8 1f30 8 6 1f40 b 1 1f51 1 1 1f53 1 1 1f55 1 1
  1f57 8 8 1f60 18 8 1f80 8 8 1f90 8 8 1fa0 8 2 1fb0 0 2 1f70 0 1 1fb3 1 1 3b9 9 4 1f72 0 1
  1fc3 6 1 390 4 2 1fd0 0 2 1f76 7 1 3b0 4 2 1fe0 0 2 1f7a 0 1 1fe5 b 2 1f78 0 2 1f7c 0 1 1ff3
  129 1 3c9 3 1 6b 0 1 e5 6 1 214e 2d 10 2170 13 1 2184 332 1a 24d0 730 30 2c30 30 1 2c61 1 1
  26b 0 1 1d7d 0 1 27d 2 1 2c68 1 1 2c6a 1 1 2c6c 1 1 251 0 1 271 0 1 250 0 1 252 1 1 2c73 2 1
  2c76 8 2 23f 0 1 2c81 1 1 2c83 1 1 2c85 1 1 2c87 1 1 2c89 1 1 2c8b 1 1 2c8d 1 1 2c8f 1 1
  2c91 1 1 2c93 1 1 2c95 1 1 2c97 1 1 2c99 1 1 2c9b 1 1 2c9d 1 1 2c9f 1 1 2ca1 1 1 2ca3 1 1
  2ca5 1 1 2ca7 1 1 2ca9 1 1 2cab 1 1 2cad 1 1 2caf 1 1 2cb1 1 1 2cb3 1 1 2cb5 1 1 2cb7 1 1
  2cb9 1 1 2cbb 1 1 2cbd 1 1 2cbf 1 1 2cc1 1 1 2cc3 1 1 2cc5 1 1 2cc7 1 1 2cc9 1 1 2ccb 1 1
  2ccd 1 1 2ccf 1 1 2cd1 1 1 2cd3 1 1 2cd5 1 1 2cd7 1 1 2cd9 1 1 2cdb 1 1 2cdd 1 1 2cdf 1 1
  2ce1 1 1 2ce3 8 1 2cec 1 1 2cee 4 1 2cf3 794d 1 a641 1 1 a643 1 1 a645 1 1 a647 1 1 a649 1 1
  a64b 1 1 a64d 1 1 a64f 1 1 a651 1 1 a653 1 1 a655 1 1 a657 1 1 a659 1 1 a65b 1 1 a65d 1 1
  a65f 1 1 a661 1 1 a663 1 1 a665 1 1 a667 1 1 a669 1 1 a66b 1 1 a66d 13 1 a681 1 1 a683 1 1
  a685 1 1 a687 1 1 a689 1 1 a68b 1 1 a68d 1 1 a68f 1 1 a691 1 1 a693 1 1 a695 1 1 a697 1 1
  a699 1 1 a69b 87 1 a723 1 1 a725 1 1 a727 1 1 a729 1 1 a72b 1 1 a72d 1 1 a72f 3 1 a733 1 1
  a735 1 1 a737 1 1 a739 1 1 a73b 1 1 a73d 1 1 a73f 1 1 a741 1 1 a743 1 1 a745 1 1 a747 1 1
  a749 1 1 a74b 1 1 a74d 1 1 a74f 1 1 a751 1 1 a753 1 1 a755 1 1 a757 1 1 a759 1 1 a75b 1 1
  a75d 1 1 a75f 1 1 a761 1 1 a763 1 1 a765 1 1 a767 1 1 a769 1 1 a76b 1 1 a76d 1 1 a76f a 1
  a77a 1 1 a77c 1 1 1d79 0 1 a77f 1 1 a781 1 1 a783 1 1 a785 1 1 a787 4 1 a78c 1 1 265 2 1
  a791 1 1 a793 3 1 a797 1 1 a799 1 1 a79b 1 1 a79d 1 1 a79f 1 1 a7a1 1 1 a7a3 1 1 a7a5 1 1
  a7a7 1 1 a7a9 1 1 266 0 1 25c 0 1 261 0 1 26c 0 1 26a 1 1 29e 0 1 287 0 1 29d 0 1 ab53 0 1
  a7b5 1 1 a7b7 1 1 a7b9 1 1 a7bb 1 1 a7bd 1 1 a7bf 1 1 a7c1 1 1 a7c3 1 1 a794 0 1 282 0 1
  1d8e 0 1 a7c8 1 1 a7ca 1 1 264 0 1 a7cd 3 1 a7d1 5 1 a7d7 1 1 a7d9 1 1 a7db 1 1 19b 18 1
  a7f6 37a 50 13a0 4f45 1 fb06 41b 1a ff41 4c5 28 10428 88 24 104d8 9c b 10597 1 f 105a3 1 7
  105b3 1 2 105bb 6ea 33 10cc0 9d 16 10d70 b3a 20 118c0 5580 20 16e60 7aa0 22 1e922"

end Freshness.Unicode
