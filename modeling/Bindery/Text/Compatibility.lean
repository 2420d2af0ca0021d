/- Data of the compatibility normal form: what each character decomposes into, which pairs
   compose again, and the combining classes. A row of code points is one number, with six
   hexadecimal digits for each of them but the first; rows of other numbers are text, ended by
   semicolons. The syllables of Hangul have a rule instead of rows. -/
namespace Bindery.Text

/- A name character, then its full compatibility decomposition. -/

def letterRows : List Nat := [
  0xaa_000061, 0xb5_0003bc, 0xba_00006f, 0xc0_000041_000300, 0xc1_000041_000301, 0xc2_000041_000302,
  0xc3_000041_000303, 0xc4_000041_000308, 0xc5_000041_00030a, 0xc7_000043_000327,
  0xc8_000045_000300, 0xc9_000045_000301, 0xca_000045_000302, 0xcb_000045_000308,
  0xcc_000049_000300, 0xcd_000049_000301, 0xce_000049_000302, 0xcf_000049_000308,
  0xd1_00004e_000303, 0xd2_00004f_000300, 0xd3_00004f_000301, 0xd4_00004f_000302,
  0xd5_00004f_000303, 0xd6_00004f_000308, 0xd9_000055_000300, 0xda_000055_000301,
  0xdb_000055_000302, 0xdc_000055_000308, 0xdd_000059_000301, 0xe0_000061_000300,
  0xe1_000061_000301, 0xe2_000061_000302, 0xe3_000061_000303, 0xe4_000061_000308,
  0xe5_000061_00030a, 0xe7_000063_000327, 0xe8_000065_000300, 0xe9_000065_000301,
  0xea_000065_000302, 0xeb_000065_000308, 0xec_000069_000300, 0xed_000069_000301,
  0xee_000069_000302, 0xef_000069_000308, 0xf1_00006e_000303, 0xf2_00006f_000300,
  0xf3_00006f_000301, 0xf4_00006f_000302, 0xf5_00006f_000303, 0xf6_00006f_000308,
  0xf9_000075_000300, 0xfa_000075_000301, 0xfb_000075_000302, 0xfc_000075_000308,
  0xfd_000079_000301, 0xff_000079_000308, 0x100_000041_000304, 0x101_000061_000304,
  0x102_000041_000306, 0x103_000061_000306, 0x104_000041_000328, 0x105_000061_000328,
  0x106_000043_000301, 0x107_000063_000301, 0x108_000043_000302, 0x109_000063_000302,
  0x10a_000043_000307, 0x10b_000063_000307, 0x10c_000043_00030c, 0x10d_000063_00030c,
  0x10e_000044_00030c, 0x10f_000064_00030c, 0x112_000045_000304, 0x113_000065_000304,
  0x114_000045_000306, 0x115_000065_000306, 0x116_000045_000307, 0x117_000065_000307,
  0x118_000045_000328, 0x119_000065_000328, 0x11a_000045_00030c, 0x11b_000065_00030c,
  0x11c_000047_000302, 0x11d_000067_000302, 0x11e_000047_000306, 0x11f_000067_000306,
  0x120_000047_000307, 0x121_000067_000307, 0x122_000047_000327, 0x123_000067_000327,
  0x124_000048_000302, 0x125_000068_000302, 0x128_000049_000303, 0x129_000069_000303,
  0x12a_000049_000304, 0x12b_000069_000304, 0x12c_000049_000306, 0x12d_000069_000306,
  0x12e_000049_000328, 0x12f_000069_000328, 0x130_000049_000307, 0x132_000049_00004a,
  0x133_000069_00006a, 0x134_00004a_000302, 0x135_00006a_000302, 0x136_00004b_000327,
  0x137_00006b_000327, 0x139_00004c_000301, 0x13a_00006c_000301, 0x13b_00004c_000327,
  0x13c_00006c_000327, 0x13d_00004c_00030c, 0x13e_00006c_00030c, 0x13f_00004c_0000b7,
  0x140_00006c_0000b7, 0x143_00004e_000301, 0x144_00006e_000301, 0x145_00004e_000327,
  0x146_00006e_000327, 0x147_00004e_00030c, 0x148_00006e_00030c, 0x149_0002bc_00006e,
  0x14c_00004f_000304, 0x14d_00006f_000304, 0x14e_00004f_000306, 0x14f_00006f_000306,
  0x150_00004f_00030b, 0x151_00006f_00030b, 0x154_000052_000301, 0x155_000072_000301,
  0x156_000052_000327, 0x157_000072_000327, 0x158_000052_00030c, 0x159_000072_00030c,
  0x15a_000053_000301, 0x15b_000073_000301, 0x15c_000053_000302, 0x15d_000073_000302,
  0x15e_000053_000327, 0x15f_000073_000327, 0x160_000053_00030c, 0x161_000073_00030c,
  0x162_000054_000327, 0x163_000074_000327, 0x164_000054_00030c, 0x165_000074_00030c,
  0x168_000055_000303, 0x169_000075_000303, 0x16a_000055_000304, 0x16b_000075_000304,
  0x16c_000055_000306, 0x16d_000075_000306, 0x16e_000055_00030a, 0x16f_000075_00030a,
  0x170_000055_00030b, 0x171_000075_00030b, 0x172_000055_000328, 0x173_000075_000328,
  0x174_000057_000302, 0x175_000077_000302, 0x176_000059_000302, 0x177_000079_000302,
  0x178_000059_000308, 0x179_00005a_000301, 0x17a_00007a_000301, 0x17b_00005a_000307,
  0x17c_00007a_000307, 0x17d_00005a_00030c, 0x17e_00007a_00030c, 0x17f_000073, 0x1a0_00004f_00031b,
  0x1a1_00006f_00031b, 0x1af_000055_00031b, 0x1b0_000075_00031b, 0x1c4_000044_00005a_00030c,
  0x1c5_000044_00007a_00030c, 0x1c6_000064_00007a_00030c, 0x1c7_00004c_00004a, 0x1c8_00004c_00006a,
  0x1c9_00006c_00006a, 0x1ca_00004e_00004a, 0x1cb_00004e_00006a, 0x1cc_00006e_00006a,
  0x1cd_000041_00030c, 0x1ce_000061_00030c, 0x1cf_000049_00030c, 0x1d0_000069_00030c,
  0x1d1_00004f_00030c, 0x1d2_00006f_00030c, 0x1d3_000055_00030c, 0x1d4_000075_00030c,
  0x1d5_000055_000308_000304, 0x1d6_000075_000308_000304, 0x1d7_000055_000308_000301,
  0x1d8_000075_000308_000301, 0x1d9_000055_000308_00030c, 0x1da_000075_000308_00030c,
  0x1db_000055_000308_000300, 0x1dc_000075_000308_000300, 0x1de_000041_000308_000304,
  0x1df_000061_000308_000304, 0x1e0_000041_000307_000304, 0x1e1_000061_000307_000304,
  0x1e2_0000c6_000304, 0x1e3_0000e6_000304, 0x1e6_000047_00030c, 0x1e7_000067_00030c,
  0x1e8_00004b_00030c, 0x1e9_00006b_00030c, 0x1ea_00004f_000328, 0x1eb_00006f_000328,
  0x1ec_00004f_000328_000304, 0x1ed_00006f_000328_000304, 0x1ee_0001b7_00030c, 0x1ef_000292_00030c,
  0x1f0_00006a_00030c, 0x1f1_000044_00005a, 0x1f2_000044_00007a, 0x1f3_000064_00007a,
  0x1f4_000047_000301, 0x1f5_000067_000301, 0x1f8_00004e_000300, 0x1f9_00006e_000300,
  0x1fa_000041_00030a_000301, 0x1fb_000061_00030a_000301, 0x1fc_0000c6_000301, 0x1fd_0000e6_000301,
  0x1fe_0000d8_000301, 0x1ff_0000f8_000301, 0x200_000041_00030f, 0x201_000061_00030f,
  0x202_000041_000311, 0x203_000061_000311, 0x204_000045_00030f, 0x205_000065_00030f,
  0x206_000045_000311, 0x207_000065_000311, 0x208_000049_00030f, 0x209_000069_00030f,
  0x20a_000049_000311, 0x20b_000069_000311, 0x20c_00004f_00030f, 0x20d_00006f_00030f,
  0x20e_00004f_000311, 0x20f_00006f_000311, 0x210_000052_00030f, 0x211_000072_00030f,
  0x212_000052_000311, 0x213_000072_000311, 0x214_000055_00030f, 0x215_000075_00030f,
  0x216_000055_000311, 0x217_000075_000311, 0x218_000053_000326, 0x219_000073_000326,
  0x21a_000054_000326, 0x21b_000074_000326, 0x21e_000048_00030c, 0x21f_000068_00030c,
  0x226_000041_000307, 0x227_000061_000307, 0x228_000045_000327, 0x229_000065_000327,
  0x22a_00004f_000308_000304, 0x22b_00006f_000308_000304, 0x22c_00004f_000303_000304,
  0x22d_00006f_000303_000304, 0x22e_00004f_000307, 0x22f_00006f_000307, 0x230_00004f_000307_000304,
  0x231_00006f_000307_000304, 0x232_000059_000304, 0x233_000079_000304, 0x2b0_000068, 0x2b1_000266,
  0x2b2_00006a, 0x2b3_000072, 0x2b4_000279, 0x2b5_00027b, 0x2b6_000281, 0x2b7_000077, 0x2b8_000079,
  0x2e0_000263, 0x2e1_00006c, 0x2e2_000073, 0x2e3_000078, 0x2e4_000295, 0x340_000300, 0x341_000301,
  0x343_000313, 0x344_000308_000301, 0x374_0002b9, 0x386_000391_000301, 0x387_0000b7,
  0x388_000395_000301, 0x389_000397_000301, 0x38a_000399_000301, 0x38c_00039f_000301,
  0x38e_0003a5_000301, 0x38f_0003a9_000301, 0x390_0003b9_000308_000301, 0x3aa_000399_000308,
  0x3ab_0003a5_000308, 0x3ac_0003b1_000301, 0x3ad_0003b5_000301, 0x3ae_0003b7_000301,
  0x3af_0003b9_000301, 0x3b0_0003c5_000308_000301, 0x3ca_0003b9_000308, 0x3cb_0003c5_000308,
  0x3cc_0003bf_000301, 0x3cd_0003c5_000301, 0x3ce_0003c9_000301, 0x3d0_0003b2, 0x3d1_0003b8,
  0x3d2_0003a5, 0x3d3_0003a5_000301, 0x3d4_0003a5_000308, 0x3d5_0003c6, 0x3d6_0003c0, 0x3f0_0003ba,
  0x3f1_0003c1, 0x3f2_0003c2, 0x3f4_000398, 0x3f5_0003b5, 0x3f9_0003a3, 0x400_000415_000300,
  0x401_000415_000308, 0x403_000413_000301, 0x407_000406_000308, 0x40c_00041a_000301,
  0x40d_000418_000300, 0x40e_000423_000306, 0x419_000418_000306, 0x439_000438_000306,
  0x450_000435_000300, 0x451_000435_000308, 0x453_000433_000301, 0x457_000456_000308,
  0x45c_00043a_000301, 0x45d_000438_000300, 0x45e_000443_000306, 0x476_000474_00030f,
  0x477_000475_00030f, 0x4c1_000416_000306, 0x4c2_000436_000306, 0x4d0_000410_000306,
  0x4d1_000430_000306, 0x4d2_000410_000308, 0x4d3_000430_000308, 0x4d6_000415_000306,
  0x4d7_000435_000306, 0x4da_0004d8_000308, 0x4db_0004d9_000308, 0x4dc_000416_000308,
  0x4dd_000436_000308, 0x4de_000417_000308, 0x4df_000437_000308, 0x4e2_000418_000304,
  0x4e3_000438_000304, 0x4e4_000418_000308, 0x4e5_000438_000308, 0x4e6_00041e_000308,
  0x4e7_00043e_000308, 0x4ea_0004e8_000308, 0x4eb_0004e9_000308, 0x4ec_00042d_000308,
  0x4ed_00044d_000308, 0x4ee_000423_000304, 0x4ef_000443_000304, 0x4f0_000423_000308,
  0x4f1_000443_000308, 0x4f2_000423_00030b, 0x4f3_000443_00030b, 0x4f4_000427_000308,
  0x4f5_000447_000308, 0x4f8_00042b_000308, 0x4f9_00044b_000308, 0x587_000565_000582,
  0x622_000627_000653, 0x623_000627_000654, 0x624_000648_000654, 0x625_000627_000655,
  0x626_00064a_000654, 0x675_000627_000674, 0x676_000648_000674, 0x677_0006c7_000674,
  0x678_00064a_000674, 0x6c0_0006d5_000654, 0x6c2_0006c1_000654, 0x6d3_0006d2_000654,
  0x929_000928_00093c, 0x931_000930_00093c, 0x934_000933_00093c, 0x958_000915_00093c,
  0x959_000916_00093c, 0x95a_000917_00093c, 0x95b_00091c_00093c, 0x95c_000921_00093c,
  0x95d_000922_00093c, 0x95e_00092b_00093c, 0x95f_00092f_00093c, 0x9cb_0009c7_0009be,
  0x9cc_0009c7_0009d7, 0x9dc_0009a1_0009bc, 0x9dd_0009a2_0009bc, 0x9df_0009af_0009bc,
  0xa33_000a32_000a3c, 0xa36_000a38_000a3c, 0xa59_000a16_000a3c, 0xa5a_000a17_000a3c,
  0xa5b_000a1c_000a3c, 0xa5e_000a2b_000a3c, 0xb48_000b47_000b56, 0xb4b_000b47_000b3e,
  0xb4c_000b47_000b57, 0xb5c_000b21_000b3c, 0xb5d_000b22_000b3c, 0xb94_000b92_000bd7,
  0xbca_000bc6_000bbe, 0xbcb_000bc7_000bbe, 0xbcc_000bc6_000bd7, 0xc48_000c46_000c56,
  0xcc0_000cbf_000cd5, 0xcc7_000cc6_000cd5, 0xcc8_000cc6_000cd6, 0xcca_000cc6_000cc2,
  0xccb_000cc6_000cc2_000cd5, 0xd4a_000d46_000d3e, 0xd4b_000d47_000d3e, 0xd4c_000d46_000d57,
  0xdda_000dd9_000dca, 0xddc_000dd9_000dcf, 0xddd_000dd9_000dcf_000dca, 0xdde_000dd9_000ddf,
  0xe33_000e4d_000e32, 0xeb3_000ecd_000eb2, 0xedc_000eab_000e99, 0xedd_000eab_000ea1,
  0xf43_000f42_000fb7, 0xf4d_000f4c_000fb7, 0xf52_000f51_000fb7, 0xf57_000f56_000fb7,
  0xf5c_000f5b_000fb7, 0xf69_000f40_000fb5, 0xf73_000f71_000f72, 0xf75_000f71_000f74,
  0xf76_000fb2_000f80, 0xf77_000fb2_000f71_000f80, 0xf78_000fb3_000f80, 0xf79_000fb3_000f71_000f80,
  0xf81_000f71_000f80, 0xf93_000f92_000fb7, 0xf9d_000f9c_000fb7, 0xfa2_000fa1_000fb7,
  0xfa7_000fa6_000fb7, 0xfac_000fab_000fb7, 0xfb9_000f90_000fb5, 0x1026_001025_00102e,
  0x10fc_0010dc, 0x1b06_001b05_001b35, 0x1b08_001b07_001b35, 0x1b0a_001b09_001b35,
  0x1b0c_001b0b_001b35, 0x1b0e_001b0d_001b35, 0x1b12_001b11_001b35, 0x1b3b_001b3a_001b35,
  0x1b3d_001b3c_001b35, 0x1b40_001b3e_001b35, 0x1b41_001b3f_001b35, 0x1b43_001b42_001b35,
  0x1d2c_000041, 0x1d2d_0000c6, 0x1d2e_000042, 0x1d30_000044, 0x1d31_000045, 0x1d32_00018e,
  0x1d33_000047, 0x1d34_000048, 0x1d35_000049, 0x1d36_00004a, 0x1d37_00004b, 0x1d38_00004c,
  0x1d39_00004d, 0x1d3a_00004e, 0x1d3c_00004f, 0x1d3d_000222, 0x1d3e_000050, 0x1d3f_000052,
  0x1d40_000054, 0x1d41_000055, 0x1d42_000057, 0x1d43_000061, 0x1d44_000250, 0x1d45_000251,
  0x1d46_001d02, 0x1d47_000062, 0x1d48_000064, 0x1d49_000065, 0x1d4a_000259, 0x1d4b_00025b,
  0x1d4c_00025c, 0x1d4d_000067, 0x1d4f_00006b, 0x1d50_00006d, 0x1d51_00014b, 0x1d52_00006f,
  0x1d53_000254, 0x1d54_001d16, 0x1d55_001d17, 0x1d56_000070, 0x1d57_000074, 0x1d58_000075,
  0x1d59_001d1d, 0x1d5a_00026f, 0x1d5b_000076, 0x1d5c_001d25, 0x1d5d_0003b2, 0x1d5e_0003b3,
  0x1d5f_0003b4, 0x1d60_0003c6, 0x1d61_0003c7, 0x1d62_000069, 0x1d63_000072, 0x1d64_000075,
  0x1d65_000076, 0x1d66_0003b2, 0x1d67_0003b3, 0x1d68_0003c1, 0x1d69_0003c6, 0x1d6a_0003c7,
  0x1d78_00043d, 0x1d9b_000252, 0x1d9c_000063, 0x1d9d_000255, 0x1d9e_0000f0, 0x1d9f_00025c,
  0x1da0_000066, 0x1da1_00025f, 0x1da2_000261, 0x1da3_000265, 0x1da4_000268, 0x1da5_000269,
  0x1da6_00026a, 0x1da7_001d7b, 0x1da8_00029d, 0x1da9_00026d, 0x1daa_001d85, 0x1dab_00029f,
  0x1dac_000271, 0x1dad_000270, 0x1dae_000272, 0x1daf_000273, 0x1db0_000274, 0x1db1_000275,
  0x1db2_000278, 0x1db3_000282, 0x1db4_000283, 0x1db5_0001ab, 0x1db6_000289, 0x1db7_00028a,
  0x1db8_001d1c, 0x1db9_00028b, 0x1dba_00028c, 0x1dbb_00007a, 0x1dbc_000290, 0x1dbd_000291,
  0x1dbe_000292, 0x1dbf_0003b8, 0x1e00_000041_000325, 0x1e01_000061_000325, 0x1e02_000042_000307,
  0x1e03_000062_000307, 0x1e04_000042_000323, 0x1e05_000062_000323, 0x1e06_000042_000331,
  0x1e07_000062_000331, 0x1e08_000043_000327_000301, 0x1e09_000063_000327_000301,
  0x1e0a_000044_000307, 0x1e0b_000064_000307, 0x1e0c_000044_000323, 0x1e0d_000064_000323,
  0x1e0e_000044_000331, 0x1e0f_000064_000331, 0x1e10_000044_000327, 0x1e11_000064_000327,
  0x1e12_000044_00032d, 0x1e13_000064_00032d, 0x1e14_000045_000304_000300,
  0x1e15_000065_000304_000300, 0x1e16_000045_000304_000301, 0x1e17_000065_000304_000301,
  0x1e18_000045_00032d, 0x1e19_000065_00032d, 0x1e1a_000045_000330, 0x1e1b_000065_000330,
  0x1e1c_000045_000327_000306, 0x1e1d_000065_000327_000306, 0x1e1e_000046_000307,
  0x1e1f_000066_000307, 0x1e20_000047_000304, 0x1e21_000067_000304, 0x1e22_000048_000307,
  0x1e23_000068_000307, 0x1e24_000048_000323, 0x1e25_000068_000323, 0x1e26_000048_000308,
  0x1e27_000068_000308, 0x1e28_000048_000327, 0x1e29_000068_000327, 0x1e2a_000048_00032e,
  0x1e2b_000068_00032e, 0x1e2c_000049_000330, 0x1e2d_000069_000330, 0x1e2e_000049_000308_000301,
  0x1e2f_000069_000308_000301, 0x1e30_00004b_000301, 0x1e31_00006b_000301, 0x1e32_00004b_000323,
  0x1e33_00006b_000323, 0x1e34_00004b_000331, 0x1e35_00006b_000331, 0x1e36_00004c_000323,
  0x1e37_00006c_000323, 0x1e38_00004c_000323_000304, 0x1e39_00006c_000323_000304,
  0x1e3a_00004c_000331, 0x1e3b_00006c_000331, 0x1e3c_00004c_00032d, 0x1e3d_00006c_00032d,
  0x1e3e_00004d_000301, 0x1e3f_00006d_000301, 0x1e40_00004d_000307, 0x1e41_00006d_000307,
  0x1e42_00004d_000323, 0x1e43_00006d_000323, 0x1e44_00004e_000307, 0x1e45_00006e_000307,
  0x1e46_00004e_000323, 0x1e47_00006e_000323, 0x1e48_00004e_000331, 0x1e49_00006e_000331,
  0x1e4a_00004e_00032d, 0x1e4b_00006e_00032d, 0x1e4c_00004f_000303_000301,
  0x1e4d_00006f_000303_000301, 0x1e4e_00004f_000303_000308, 0x1e4f_00006f_000303_000308,
  0x1e50_00004f_000304_000300, 0x1e51_00006f_000304_000300, 0x1e52_00004f_000304_000301,
  0x1e53_00006f_000304_000301, 0x1e54_000050_000301, 0x1e55_000070_000301, 0x1e56_000050_000307,
  0x1e57_000070_000307, 0x1e58_000052_000307, 0x1e59_000072_000307, 0x1e5a_000052_000323,
  0x1e5b_000072_000323, 0x1e5c_000052_000323_000304, 0x1e5d_000072_000323_000304,
  0x1e5e_000052_000331, 0x1e5f_000072_000331, 0x1e60_000053_000307, 0x1e61_000073_000307,
  0x1e62_000053_000323, 0x1e63_000073_000323, 0x1e64_000053_000301_000307,
  0x1e65_000073_000301_000307, 0x1e66_000053_00030c_000307, 0x1e67_000073_00030c_000307,
  0x1e68_000053_000323_000307, 0x1e69_000073_000323_000307, 0x1e6a_000054_000307,
  0x1e6b_000074_000307, 0x1e6c_000054_000323, 0x1e6d_000074_000323, 0x1e6e_000054_000331,
  0x1e6f_000074_000331, 0x1e70_000054_00032d, 0x1e71_000074_00032d, 0x1e72_000055_000324,
  0x1e73_000075_000324, 0x1e74_000055_000330, 0x1e75_000075_000330, 0x1e76_000055_00032d,
  0x1e77_000075_00032d, 0x1e78_000055_000303_000301, 0x1e79_000075_000303_000301,
  0x1e7a_000055_000304_000308, 0x1e7b_000075_000304_000308, 0x1e7c_000056_000303,
  0x1e7d_000076_000303, 0x1e7e_000056_000323, 0x1e7f_000076_000323, 0x1e80_000057_000300,
  0x1e81_000077_000300, 0x1e82_000057_000301, 0x1e83_000077_000301, 0x1e84_000057_000308,
  0x1e85_000077_000308, 0x1e86_000057_000307, 0x1e87_000077_000307, 0x1e88_000057_000323,
  0x1e89_000077_000323, 0x1e8a_000058_000307, 0x1e8b_000078_000307, 0x1e8c_000058_000308,
  0x1e8d_000078_000308, 0x1e8e_000059_000307, 0x1e8f_000079_000307, 0x1e90_00005a_000302,
  0x1e91_00007a_000302, 0x1e92_00005a_000323, 0x1e93_00007a_000323, 0x1e94_00005a_000331,
  0x1e95_00007a_000331, 0x1e96_000068_000331, 0x1e97_000074_000308, 0x1e98_000077_00030a,
  0x1e99_000079_00030a, 0x1e9a_000061_0002be, 0x1e9b_000073_000307, 0x1ea0_000041_000323,
  0x1ea1_000061_000323, 0x1ea2_000041_000309, 0x1ea3_000061_000309, 0x1ea4_000041_000302_000301,
  0x1ea5_000061_000302_000301, 0x1ea6_000041_000302_000300, 0x1ea7_000061_000302_000300,
  0x1ea8_000041_000302_000309, 0x1ea9_000061_000302_000309, 0x1eaa_000041_000302_000303,
  0x1eab_000061_000302_000303, 0x1eac_000041_000323_000302, 0x1ead_000061_000323_000302,
  0x1eae_000041_000306_000301, 0x1eaf_000061_000306_000301, 0x1eb0_000041_000306_000300,
  0x1eb1_000061_000306_000300, 0x1eb2_000041_000306_000309, 0x1eb3_000061_000306_000309,
  0x1eb4_000041_000306_000303, 0x1eb5_000061_000306_000303, 0x1eb6_000041_000323_000306,
  0x1eb7_000061_000323_000306, 0x1eb8_000045_000323, 0x1eb9_000065_000323, 0x1eba_000045_000309,
  0x1ebb_000065_000309, 0x1ebc_000045_000303, 0x1ebd_000065_000303, 0x1ebe_000045_000302_000301,
  0x1ebf_000065_000302_000301, 0x1ec0_000045_000302_000300, 0x1ec1_000065_000302_000300,
  0x1ec2_000045_000302_000309, 0x1ec3_000065_000302_000309, 0x1ec4_000045_000302_000303,
  0x1ec5_000065_000302_000303, 0x1ec6_000045_000323_000302, 0x1ec7_000065_000323_000302,
  0x1ec8_000049_000309, 0x1ec9_000069_000309, 0x1eca_000049_000323, 0x1ecb_000069_000323,
  0x1ecc_00004f_000323, 0x1ecd_00006f_000323, 0x1ece_00004f_000309, 0x1ecf_00006f_000309,
  0x1ed0_00004f_000302_000301, 0x1ed1_00006f_000302_000301, 0x1ed2_00004f_000302_000300,
  0x1ed3_00006f_000302_000300, 0x1ed4_00004f_000302_000309, 0x1ed5_00006f_000302_000309,
  0x1ed6_00004f_000302_000303, 0x1ed7_00006f_000302_000303, 0x1ed8_00004f_000323_000302,
  0x1ed9_00006f_000323_000302, 0x1eda_00004f_00031b_000301, 0x1edb_00006f_00031b_000301,
  0x1edc_00004f_00031b_000300, 0x1edd_00006f_00031b_000300, 0x1ede_00004f_00031b_000309,
  0x1edf_00006f_00031b_000309, 0x1ee0_00004f_00031b_000303, 0x1ee1_00006f_00031b_000303,
  0x1ee2_00004f_00031b_000323, 0x1ee3_00006f_00031b_000323, 0x1ee4_000055_000323,
  0x1ee5_000075_000323, 0x1ee6_000055_000309, 0x1ee7_000075_000309, 0x1ee8_000055_00031b_000301,
  0x1ee9_000075_00031b_000301, 0x1eea_000055_00031b_000300, 0x1eeb_000075_00031b_000300,
  0x1eec_000055_00031b_000309, 0x1eed_000075_00031b_000309, 0x1eee_000055_00031b_000303,
  0x1eef_000075_00031b_000303, 0x1ef0_000055_00031b_000323, 0x1ef1_000075_00031b_000323,
  0x1ef2_000059_000300, 0x1ef3_000079_000300, 0x1ef4_000059_000323, 0x1ef5_000079_000323,
  0x1ef6_000059_000309, 0x1ef7_000079_000309, 0x1ef8_000059_000303, 0x1ef9_000079_000303,
  0x1f00_0003b1_000313, 0x1f01_0003b1_000314, 0x1f02_0003b1_000313_000300,
  0x1f03_0003b1_000314_000300, 0x1f04_0003b1_000313_000301, 0x1f05_0003b1_000314_000301,
  0x1f06_0003b1_000313_000342, 0x1f07_0003b1_000314_000342, 0x1f08_000391_000313,
  0x1f09_000391_000314, 0x1f0a_000391_000313_000300, 0x1f0b_000391_000314_000300,
  0x1f0c_000391_000313_000301, 0x1f0d_000391_000314_000301, 0x1f0e_000391_000313_000342,
  0x1f0f_000391_000314_000342, 0x1f10_0003b5_000313, 0x1f11_0003b5_000314,
  0x1f12_0003b5_000313_000300, 0x1f13_0003b5_000314_000300, 0x1f14_0003b5_000313_000301,
  0x1f15_0003b5_000314_000301, 0x1f18_000395_000313, 0x1f19_000395_000314,
  0x1f1a_000395_000313_000300, 0x1f1b_000395_000314_000300, 0x1f1c_000395_000313_000301,
  0x1f1d_000395_000314_000301, 0x1f20_0003b7_000313, 0x1f21_0003b7_000314,
  0x1f22_0003b7_000313_000300, 0x1f23_0003b7_000314_000300, 0x1f24_0003b7_000313_000301,
  0x1f25_0003b7_000314_000301, 0x1f26_0003b7_000313_000342, 0x1f27_0003b7_000314_000342,
  0x1f28_000397_000313, 0x1f29_000397_000314, 0x1f2a_000397_000313_000300,
  0x1f2b_000397_000314_000300, 0x1f2c_000397_000313_000301, 0x1f2d_000397_000314_000301,
  0x1f2e_000397_000313_000342, 0x1f2f_000397_000314_000342, 0x1f30_0003b9_000313,
  0x1f31_0003b9_000314, 0x1f32_0003b9_000313_000300, 0x1f33_0003b9_000314_000300,
  0x1f34_0003b9_000313_000301, 0x1f35_0003b9_000314_000301, 0x1f36_0003b9_000313_000342,
  0x1f37_0003b9_000314_000342, 0x1f38_000399_000313, 0x1f39_000399_000314,
  0x1f3a_000399_000313_000300, 0x1f3b_000399_000314_000300, 0x1f3c_000399_000313_000301,
  0x1f3d_000399_000314_000301, 0x1f3e_000399_000313_000342, 0x1f3f_000399_000314_000342,
  0x1f40_0003bf_000313, 0x1f41_0003bf_000314, 0x1f42_0003bf_000313_000300,
  0x1f43_0003bf_000314_000300, 0x1f44_0003bf_000313_000301, 0x1f45_0003bf_000314_000301,
  0x1f48_00039f_000313, 0x1f49_00039f_000314, 0x1f4a_00039f_000313_000300,
  0x1f4b_00039f_000314_000300, 0x1f4c_00039f_000313_000301, 0x1f4d_00039f_000314_000301,
  0x1f50_0003c5_000313, 0x1f51_0003c5_000314, 0x1f52_0003c5_000313_000300,
  0x1f53_0003c5_000314_000300, 0x1f54_0003c5_000313_000301, 0x1f55_0003c5_000314_000301,
  0x1f56_0003c5_000313_000342, 0x1f57_0003c5_000314_000342, 0x1f59_0003a5_000314,
  0x1f5b_0003a5_000314_000300, 0x1f5d_0003a5_000314_000301, 0x1f5f_0003a5_000314_000342,
  0x1f60_0003c9_000313, 0x1f61_0003c9_000314, 0x1f62_0003c9_000313_000300,
  0x1f63_0003c9_000314_000300, 0x1f64_0003c9_000313_000301, 0x1f65_0003c9_000314_000301,
  0x1f66_0003c9_000313_000342, 0x1f67_0003c9_000314_000342, 0x1f68_0003a9_000313,
  0x1f69_0003a9_000314, 0x1f6a_0003a9_000313_000300, 0x1f6b_0003a9_000314_000300,
  0x1f6c_0003a9_000313_000301, 0x1f6d_0003a9_000314_000301, 0x1f6e_0003a9_000313_000342,
  0x1f6f_0003a9_000314_000342, 0x1f70_0003b1_000300, 0x1f71_0003b1_000301, 0x1f72_0003b5_000300,
  0x1f73_0003b5_000301, 0x1f74_0003b7_000300, 0x1f75_0003b7_000301, 0x1f76_0003b9_000300,
  0x1f77_0003b9_000301, 0x1f78_0003bf_000300, 0x1f79_0003bf_000301, 0x1f7a_0003c5_000300,
  0x1f7b_0003c5_000301, 0x1f7c_0003c9_000300, 0x1f7d_0003c9_000301, 0x1f80_0003b1_000313_000345,
  0x1f81_0003b1_000314_000345, 0x1f82_0003b1_000313_000300_000345,
  0x1f83_0003b1_000314_000300_000345, 0x1f84_0003b1_000313_000301_000345,
  0x1f85_0003b1_000314_000301_000345, 0x1f86_0003b1_000313_000342_000345,
  0x1f87_0003b1_000314_000342_000345, 0x1f88_000391_000313_000345, 0x1f89_000391_000314_000345,
  0x1f8a_000391_000313_000300_000345, 0x1f8b_000391_000314_000300_000345,
  0x1f8c_000391_000313_000301_000345, 0x1f8d_000391_000314_000301_000345,
  0x1f8e_000391_000313_000342_000345, 0x1f8f_000391_000314_000342_000345,
  0x1f90_0003b7_000313_000345, 0x1f91_0003b7_000314_000345, 0x1f92_0003b7_000313_000300_000345,
  0x1f93_0003b7_000314_000300_000345, 0x1f94_0003b7_000313_000301_000345,
  0x1f95_0003b7_000314_000301_000345, 0x1f96_0003b7_000313_000342_000345,
  0x1f97_0003b7_000314_000342_000345, 0x1f98_000397_000313_000345, 0x1f99_000397_000314_000345,
  0x1f9a_000397_000313_000300_000345, 0x1f9b_000397_000314_000300_000345,
  0x1f9c_000397_000313_000301_000345, 0x1f9d_000397_000314_000301_000345,
  0x1f9e_000397_000313_000342_000345, 0x1f9f_000397_000314_000342_000345,
  0x1fa0_0003c9_000313_000345, 0x1fa1_0003c9_000314_000345, 0x1fa2_0003c9_000313_000300_000345,
  0x1fa3_0003c9_000314_000300_000345, 0x1fa4_0003c9_000313_000301_000345,
  0x1fa5_0003c9_000314_000301_000345, 0x1fa6_0003c9_000313_000342_000345,
  0x1fa7_0003c9_000314_000342_000345, 0x1fa8_0003a9_000313_000345, 0x1fa9_0003a9_000314_000345,
  0x1faa_0003a9_000313_000300_000345, 0x1fab_0003a9_000314_000300_000345,
  0x1fac_0003a9_000313_000301_000345, 0x1fad_0003a9_000314_000301_000345,
  0x1fae_0003a9_000313_000342_000345, 0x1faf_0003a9_000314_000342_000345, 0x1fb0_0003b1_000306,
  0x1fb1_0003b1_000304, 0x1fb2_0003b1_000300_000345, 0x1fb3_0003b1_000345,
  0x1fb4_0003b1_000301_000345, 0x1fb6_0003b1_000342, 0x1fb7_0003b1_000342_000345,
  0x1fb8_000391_000306, 0x1fb9_000391_000304, 0x1fba_000391_000300, 0x1fbb_000391_000301,
  0x1fbc_000391_000345, 0x1fbe_0003b9, 0x1fc2_0003b7_000300_000345, 0x1fc3_0003b7_000345,
  0x1fc4_0003b7_000301_000345, 0x1fc6_0003b7_000342, 0x1fc7_0003b7_000342_000345,
  0x1fc8_000395_000300, 0x1fc9_000395_000301, 0x1fca_000397_000300, 0x1fcb_000397_000301,
  0x1fcc_000397_000345, 0x1fd0_0003b9_000306, 0x1fd1_0003b9_000304, 0x1fd2_0003b9_000308_000300,
  0x1fd3_0003b9_000308_000301, 0x1fd6_0003b9_000342, 0x1fd7_0003b9_000308_000342,
  0x1fd8_000399_000306, 0x1fd9_000399_000304, 0x1fda_000399_000300, 0x1fdb_000399_000301,
  0x1fe0_0003c5_000306, 0x1fe1_0003c5_000304, 0x1fe2_0003c5_000308_000300,
  0x1fe3_0003c5_000308_000301, 0x1fe4_0003c1_000313, 0x1fe5_0003c1_000314, 0x1fe6_0003c5_000342,
  0x1fe7_0003c5_000308_000342, 0x1fe8_0003a5_000306, 0x1fe9_0003a5_000304, 0x1fea_0003a5_000300,
  0x1feb_0003a5_000301, 0x1fec_0003a1_000314, 0x1ff2_0003c9_000300_000345, 0x1ff3_0003c9_000345,
  0x1ff4_0003c9_000301_000345, 0x1ff6_0003c9_000342, 0x1ff7_0003c9_000342_000345,
  0x1ff8_00039f_000300, 0x1ff9_00039f_000301, 0x1ffa_0003a9_000300, 0x1ffb_0003a9_000301,
  0x1ffc_0003a9_000345, 0x2071_000069, 0x207f_00006e, 0x2090_000061, 0x2091_000065, 0x2092_00006f,
  0x2093_000078, 0x2094_000259, 0x2095_000068, 0x2096_00006b, 0x2097_00006c, 0x2098_00006d,
  0x2099_00006e, 0x209a_000070, 0x209b_000073, 0x209c_000074, 0x2102_000043, 0x2107_000190,
  0x210a_000067, 0x210b_000048, 0x210c_000048, 0x210d_000048, 0x210e_000068, 0x210f_000127,
  0x2110_000049, 0x2111_000049, 0x2112_00004c, 0x2113_00006c, 0x2115_00004e, 0x2119_000050,
  0x211a_000051, 0x211b_000052, 0x211c_000052, 0x211d_000052, 0x2124_00005a, 0x2126_0003a9,
  0x2128_00005a, 0x212a_00004b, 0x212b_000041_00030a, 0x212c_000042, 0x212d_000043, 0x212f_000065,
  0x2130_000045, 0x2131_000046, 0x2133_00004d, 0x2134_00006f, 0x2135_0005d0, 0x2136_0005d1,
  0x2137_0005d2, 0x2138_0005d3, 0x2139_000069, 0x213c_0003c0, 0x213d_0003b3, 0x213e_000393,
  0x213f_0003a0, 0x2145_000044, 0x2146_000064, 0x2147_000065, 0x2148_000069, 0x2149_00006a,
  0x2160_000049, 0x2161_000049_000049, 0x2162_000049_000049_000049, 0x2163_000049_000056,
  0x2164_000056, 0x2165_000056_000049, 0x2166_000056_000049_000049,
  0x2167_000056_000049_000049_000049, 0x2168_000049_000058, 0x2169_000058, 0x216a_000058_000049,
  0x216b_000058_000049_000049, 0x216c_00004c, 0x216d_000043, 0x216e_000044, 0x216f_00004d,
  0x2170_000069, 0x2171_000069_000069, 0x2172_000069_000069_000069, 0x2173_000069_000076,
  0x2174_000076, 0x2175_000076_000069, 0x2176_000076_000069_000069,
  0x2177_000076_000069_000069_000069, 0x2178_000069_000078, 0x2179_000078, 0x217a_000078_000069,
  0x217b_000078_000069_000069, 0x217c_00006c, 0x217d_000063, 0x217e_000064, 0x217f_00006d,
  0x2c7c_00006a, 0x2c7d_000056, 0x2d6f_002d61, 0x3038_005341, 0x3039_005344, 0x303a_005345,
  0x304c_00304b_003099, 0x304e_00304d_003099, 0x3050_00304f_003099, 0x3052_003051_003099,
  0x3054_003053_003099, 0x3056_003055_003099, 0x3058_003057_003099, 0x305a_003059_003099,
  0x305c_00305b_003099, 0x305e_00305d_003099, 0x3060_00305f_003099, 0x3062_003061_003099,
  0x3065_003064_003099, 0x3067_003066_003099, 0x3069_003068_003099, 0x3070_00306f_003099,
  0x3071_00306f_00309a, 0x3073_003072_003099, 0x3074_003072_00309a, 0x3076_003075_003099,
  0x3077_003075_00309a, 0x3079_003078_003099, 0x307a_003078_00309a, 0x307c_00307b_003099,
  0x307d_00307b_00309a, 0x3094_003046_003099, 0x309e_00309d_003099, 0x309f_003088_00308a,
  0x30ac_0030ab_003099, 0x30ae_0030ad_003099, 0x30b0_0030af_003099, 0x30b2_0030b1_003099,
  0x30b4_0030b3_003099, 0x30b6_0030b5_003099, 0x30b8_0030b7_003099, 0x30ba_0030b9_003099,
  0x30bc_0030bb_003099, 0x30be_0030bd_003099, 0x30c0_0030bf_003099, 0x30c2_0030c1_003099,
  0x30c5_0030c4_003099, 0x30c7_0030c6_003099, 0x30c9_0030c8_003099, 0x30d0_0030cf_003099,
  0x30d1_0030cf_00309a, 0x30d3_0030d2_003099, 0x30d4_0030d2_00309a, 0x30d6_0030d5_003099,
  0x30d7_0030d5_00309a, 0x30d9_0030d8_003099, 0x30da_0030d8_00309a, 0x30dc_0030db_003099,
  0x30dd_0030db_00309a, 0x30f4_0030a6_003099, 0x30f7_0030ef_003099, 0x30f8_0030f0_003099,
  0x30f9_0030f1_003099, 0x30fa_0030f2_003099, 0x30fe_0030fd_003099, 0x30ff_0030b3_0030c8,
  0x3131_001100, 0x3132_001101, 0x3133_0011aa, 0x3134_001102, 0x3135_0011ac, 0x3136_0011ad,
  0x3137_001103, 0x3138_001104, 0x3139_001105, 0x313a_0011b0, 0x313b_0011b1, 0x313c_0011b2,
  0x313d_0011b3, 0x313e_0011b4, 0x313f_0011b5, 0x3140_00111a, 0x3141_001106, 0x3142_001107,
  0x3143_001108, 0x3144_001121, 0x3145_001109, 0x3146_00110a, 0x3147_00110b, 0x3148_00110c,
  0x3149_00110d, 0x314a_00110e, 0x314b_00110f, 0x314c_001110, 0x314d_001111, 0x314e_001112,
  0x314f_001161, 0x3150_001162, 0x3151_001163, 0x3152_001164, 0x3153_001165, 0x3154_001166,
  0x3155_001167, 0x3156_001168, 0x3157_001169, 0x3158_00116a, 0x3159_00116b, 0x315a_00116c,
  0x315b_00116d, 0x315c_00116e, 0x315d_00116f, 0x315e_001170, 0x315f_001171, 0x3160_001172,
  0x3161_001173, 0x3162_001174, 0x3163_001175, 0x3164_001160, 0x3165_001114, 0x3166_001115,
  0x3167_0011c7, 0x3168_0011c8, 0x3169_0011cc, 0x316a_0011ce, 0x316b_0011d3, 0x316c_0011d7,
  0x316d_0011d9, 0x316e_00111c, 0x316f_0011dd, 0x3170_0011df, 0x3171_00111d, 0x3172_00111e,
  0x3173_001120, 0x3174_001122, 0x3175_001123, 0x3176_001127, 0x3177_001129, 0x3178_00112b,
  0x3179_00112c, 0x317a_00112d, 0x317b_00112e, 0x317c_00112f, 0x317d_001132, 0x317e_001136,
  0x317f_001140, 0x3180_001147, 0x3181_00114c, 0x3182_0011f1, 0x3183_0011f2, 0x3184_001157,
  0x3185_001158, 0x3186_001159, 0x3187_001184, 0x3188_001185, 0x3189_001188, 0x318a_001191,
  0x318b_001192, 0x318c_001194, 0x318d_00119e, 0x318e_0011a1]

def ideographRows : List Nat := [
  0xa69c_00044a, 0xa69d_00044c, 0xa770_00a76f, 0xa7f2_000043, 0xa7f3_000046, 0xa7f4_000051,
  0xa7f8_000126, 0xa7f9_000153, 0xab5c_00a727, 0xab5d_00ab37, 0xab5e_00026b, 0xab5f_00ab52,
  0xab69_00028d, 0xf900_008c48, 0xf901_0066f4, 0xf902_008eca, 0xf903_008cc8, 0xf904_006ed1,
  0xf905_004e32, 0xf906_0053e5, 0xf907_009f9c, 0xf908_009f9c, 0xf909_005951, 0xf90a_0091d1,
  0xf90b_005587, 0xf90c_005948, 0xf90d_0061f6, 0xf90e_007669, 0xf90f_007f85, 0xf910_00863f,
  0xf911_0087ba, 0xf912_0088f8, 0xf913_00908f, 0xf914_006a02, 0xf915_006d1b, 0xf916_0070d9,
  0xf917_0073de, 0xf918_00843d, 0xf919_00916a, 0xf91a_0099f1, 0xf91b_004e82, 0xf91c_005375,
  0xf91d_006b04, 0xf91e_00721b, 0xf91f_00862d, 0xf920_009e1e, 0xf921_005d50, 0xf922_006feb,
  0xf923_0085cd, 0xf924_008964, 0xf925_0062c9, 0xf926_0081d8, 0xf927_00881f, 0xf928_005eca,
  0xf929_006717, 0xf92a_006d6a, 0xf92b_0072fc, 0xf92c_0090ce, 0xf92d_004f86, 0xf92e_0051b7,
  0xf92f_0052de, 0xf930_0064c4, 0xf931_006ad3, 0xf932_007210, 0xf933_0076e7, 0xf934_008001,
  0xf935_008606, 0xf936_00865c, 0xf937_008def, 0xf938_009732, 0xf939_009b6f, 0xf93a_009dfa,
  0xf93b_00788c, 0xf93c_00797f, 0xf93d_007da0, 0xf93e_0083c9, 0xf93f_009304, 0xf940_009e7f,
  0xf941_008ad6, 0xf942_0058df, 0xf943_005f04, 0xf944_007c60, 0xf945_00807e, 0xf946_007262,
  0xf947_0078ca, 0xf948_008cc2, 0xf949_0096f7, 0xf94a_0058d8, 0xf94b_005c62, 0xf94c_006a13,
  0xf94d_006dda, 0xf94e_006f0f, 0xf94f_007d2f, 0xf950_007e37, 0xf951_00964b, 0xf952_0052d2,
  0xf953_00808b, 0xf954_0051dc, 0xf955_0051cc, 0xf956_007a1c, 0xf957_007dbe, 0xf958_0083f1,
  0xf959_009675, 0xf95a_008b80, 0xf95b_0062cf, 0xf95c_006a02, 0xf95d_008afe, 0xf95e_004e39,
  0xf95f_005be7, 0xf960_006012, 0xf961_007387, 0xf962_007570, 0xf963_005317, 0xf964_0078fb,
  0xf965_004fbf, 0xf966_005fa9, 0xf967_004e0d, 0xf968_006ccc, 0xf969_006578, 0xf96a_007d22,
  0xf96b_0053c3, 0xf96c_00585e, 0xf96d_007701, 0xf96e_008449, 0xf96f_008aaa, 0xf970_006bba,
  0xf971_008fb0, 0xf972_006c88, 0xf973_0062fe, 0xf974_0082e5, 0xf975_0063a0, 0xf976_007565,
  0xf977_004eae, 0xf978_005169, 0xf979_0051c9, 0xf97a_006881, 0xf97b_007ce7, 0xf97c_00826f,
  0xf97d_008ad2, 0xf97e_0091cf, 0xf97f_0052f5, 0xf980_005442, 0xf981_005973, 0xf982_005eec,
  0xf983_0065c5, 0xf984_006ffe, 0xf985_00792a, 0xf986_0095ad, 0xf987_009a6a, 0xf988_009e97,
  0xf989_009ece, 0xf98a_00529b, 0xf98b_0066c6, 0xf98c_006b77, 0xf98d_008f62, 0xf98e_005e74,
  0xf98f_006190, 0xf990_006200, 0xf991_00649a, 0xf992_006f23, 0xf993_007149, 0xf994_007489,
  0xf995_0079ca, 0xf996_007df4, 0xf997_00806f, 0xf998_008f26, 0xf999_0084ee, 0xf99a_009023,
  0xf99b_00934a, 0xf99c_005217, 0xf99d_0052a3, 0xf99e_0054bd, 0xf99f_0070c8, 0xf9a0_0088c2,
  0xf9a1_008aaa, 0xf9a2_005ec9, 0xf9a3_005ff5, 0xf9a4_00637b, 0xf9a5_006bae, 0xf9a6_007c3e,
  0xf9a7_007375, 0xf9a8_004ee4, 0xf9a9_0056f9, 0xf9aa_005be7, 0xf9ab_005dba, 0xf9ac_00601c,
  0xf9ad_0073b2, 0xf9ae_007469, 0xf9af_007f9a, 0xf9b0_008046, 0xf9b1_009234, 0xf9b2_0096f6,
  0xf9b3_009748, 0xf9b4_009818, 0xf9b5_004f8b, 0xf9b6_0079ae, 0xf9b7_0091b4, 0xf9b8_0096b8,
  0xf9b9_0060e1, 0xf9ba_004e86, 0xf9bb_0050da, 0xf9bc_005bee, 0xf9bd_005c3f, 0xf9be_006599,
  0xf9bf_006a02, 0xf9c0_0071ce, 0xf9c1_007642, 0xf9c2_0084fc, 0xf9c3_00907c, 0xf9c4_009f8d,
  0xf9c5_006688, 0xf9c6_00962e, 0xf9c7_005289, 0xf9c8_00677b, 0xf9c9_0067f3, 0xf9ca_006d41,
  0xf9cb_006e9c, 0xf9cc_007409, 0xf9cd_007559, 0xf9ce_00786b, 0xf9cf_007d10, 0xf9d0_00985e,
  0xf9d1_00516d, 0xf9d2_00622e, 0xf9d3_009678, 0xf9d4_00502b, 0xf9d5_005d19, 0xf9d6_006dea,
  0xf9d7_008f2a, 0xf9d8_005f8b, 0xf9d9_006144, 0xf9da_006817, 0xf9db_007387, 0xf9dc_009686,
  0xf9dd_005229, 0xf9de_00540f, 0xf9df_005c65, 0xf9e0_006613, 0xf9e1_00674e, 0xf9e2_0068a8,
  0xf9e3_006ce5, 0xf9e4_007406, 0xf9e5_0075e2, 0xf9e6_007f79, 0xf9e7_0088cf, 0xf9e8_0088e1,
  0xf9e9_0091cc, 0xf9ea_0096e2, 0xf9eb_00533f, 0xf9ec_006eba, 0xf9ed_00541d, 0xf9ee_0071d0,
  0xf9ef_007498, 0xf9f0_0085fa, 0xf9f1_0096a3, 0xf9f2_009c57, 0xf9f3_009e9f, 0xf9f4_006797,
  0xf9f5_006dcb, 0xf9f6_0081e8, 0xf9f7_007acb, 0xf9f8_007b20, 0xf9f9_007c92, 0xf9fa_0072c0,
  0xf9fb_007099, 0xf9fc_008b58, 0xf9fd_004ec0, 0xf9fe_008336, 0xf9ff_00523a, 0xfa00_005207,
  0xfa01_005ea6, 0xfa02_0062d3, 0xfa03_007cd6, 0xfa04_005b85, 0xfa05_006d1e, 0xfa06_0066b4,
  0xfa07_008f3b, 0xfa08_00884c, 0xfa09_00964d, 0xfa0a_00898b, 0xfa0b_005ed3, 0xfa0c_005140,
  0xfa0d_0055c0, 0xfa10_00585a, 0xfa12_006674, 0xfa15_0051de, 0xfa16_00732a, 0xfa17_0076ca,
  0xfa18_00793c, 0xfa19_00795e, 0xfa1a_007965, 0xfa1b_00798f, 0xfa1c_009756, 0xfa1d_007cbe,
  0xfa1e_007fbd, 0xfa20_008612, 0xfa22_008af8, 0xfa25_009038, 0xfa26_0090fd, 0xfa2a_0098ef,
  0xfa2b_0098fc, 0xfa2c_009928, 0xfa2d_009db4, 0xfa2e_0090de, 0xfa2f_0096b7, 0xfa30_004fae,
  0xfa31_0050e7, 0xfa32_00514d, 0xfa33_0052c9, 0xfa34_0052e4, 0xfa35_005351, 0xfa36_00559d,
  0xfa37_005606, 0xfa38_005668, 0xfa39_005840, 0xfa3a_0058a8, 0xfa3b_005c64, 0xfa3c_005c6e,
  0xfa3d_006094, 0xfa3e_006168, 0xfa3f_00618e, 0xfa40_0061f2, 0xfa41_00654f, 0xfa42_0065e2,
  0xfa43_006691, 0xfa44_006885, 0xfa45_006d77, 0xfa46_006e1a, 0xfa47_006f22, 0xfa48_00716e,
  0xfa49_00722b, 0xfa4a_007422, 0xfa4b_007891, 0xfa4c_00793e, 0xfa4d_007949, 0xfa4e_007948,
  0xfa4f_007950, 0xfa50_007956, 0xfa51_00795d, 0xfa52_00798d, 0xfa53_00798e, 0xfa54_007a40,
  0xfa55_007a81, 0xfa56_007bc0, 0xfa57_007df4, 0xfa58_007e09, 0xfa59_007e41, 0xfa5a_007f72,
  0xfa5b_008005, 0xfa5c_0081ed, 0xfa5d_008279, 0xfa5e_008279, 0xfa5f_008457, 0xfa60_008910,
  0xfa61_008996, 0xfa62_008b01, 0xfa63_008b39, 0xfa64_008cd3, 0xfa65_008d08, 0xfa66_008fb6,
  0xfa67_009038, 0xfa68_0096e3, 0xfa69_0097ff, 0xfa6a_00983b, 0xfa6b_006075, 0xfa6c_0242ee,
  0xfa6d_008218, 0xfa70_004e26, 0xfa71_0051b5, 0xfa72_005168, 0xfa73_004f80, 0xfa74_005145,
  0xfa75_005180, 0xfa76_0052c7, 0xfa77_0052fa, 0xfa78_00559d, 0xfa79_005555, 0xfa7a_005599,
  0xfa7b_0055e2, 0xfa7c_00585a, 0xfa7d_0058b3, 0xfa7e_005944, 0xfa7f_005954, 0xfa80_005a62,
  0xfa81_005b28, 0xfa82_005ed2, 0xfa83_005ed9, 0xfa84_005f69, 0xfa85_005fad, 0xfa86_0060d8,
  0xfa87_00614e, 0xfa88_006108, 0xfa89_00618e, 0xfa8a_006160, 0xfa8b_0061f2, 0xfa8c_006234,
  0xfa8d_0063c4, 0xfa8e_00641c, 0xfa8f_006452, 0xfa90_006556, 0xfa91_006674, 0xfa92_006717,
  0xfa93_00671b, 0xfa94_006756, 0xfa95_006b79, 0xfa96_006bba, 0xfa97_006d41, 0xfa98_006edb,
  0xfa99_006ecb, 0xfa9a_006f22, 0xfa9b_00701e, 0xfa9c_00716e, 0xfa9d_0077a7, 0xfa9e_007235,
  0xfa9f_0072af, 0xfaa0_00732a, 0xfaa1_007471, 0xfaa2_007506, 0xfaa3_00753b, 0xfaa4_00761d,
  0xfaa5_00761f, 0xfaa6_0076ca, 0xfaa7_0076db, 0xfaa8_0076f4, 0xfaa9_00774a, 0xfaaa_007740,
  0xfaab_0078cc, 0xfaac_007ab1, 0xfaad_007bc0, 0xfaae_007c7b, 0xfaaf_007d5b, 0xfab0_007df4,
  0xfab1_007f3e, 0xfab2_008005, 0xfab3_008352, 0xfab4_0083ef, 0xfab5_008779, 0xfab6_008941,
  0xfab7_008986, 0xfab8_008996, 0xfab9_008abf, 0xfaba_008af8, 0xfabb_008acb, 0xfabc_008b01,
  0xfabd_008afe, 0xfabe_008aed, 0xfabf_008b39, 0xfac0_008b8a, 0xfac1_008d08, 0xfac2_008f38,
  0xfac3_009072, 0xfac4_009199, 0xfac5_009276, 0xfac6_00967c, 0xfac7_0096e3, 0xfac8_009756,
  0xfac9_0097db, 0xfaca_0097ff, 0xfacb_00980b, 0xfacc_00983b, 0xfacd_009b12, 0xface_009f9c,
  0xfacf_02284a, 0xfad0_022844, 0xfad1_0233d5, 0xfad2_003b9d, 0xfad3_004018, 0xfad4_004039,
  0xfad5_025249, 0xfad6_025cd0, 0xfad7_027ed3, 0xfad8_009f43, 0xfad9_009f8e]

def presentationRows : List Nat := [
  0xfb00_000066_000066, 0xfb01_000066_000069, 0xfb02_000066_00006c, 0xfb03_000066_000066_000069,
  0xfb04_000066_000066_00006c, 0xfb05_000073_000074, 0xfb06_000073_000074, 0xfb13_000574_000576,
  0xfb14_000574_000565, 0xfb15_000574_00056b, 0xfb16_00057e_000576, 0xfb17_000574_00056d,
  0xfb1d_0005d9_0005b4, 0xfb1f_0005f2_0005b7, 0xfb20_0005e2, 0xfb21_0005d0, 0xfb22_0005d3,
  0xfb23_0005d4, 0xfb24_0005db, 0xfb25_0005dc, 0xfb26_0005dd, 0xfb27_0005e8, 0xfb28_0005ea,
  0xfb2a_0005e9_0005c1, 0xfb2b_0005e9_0005c2, 0xfb2c_0005e9_0005bc_0005c1,
  0xfb2d_0005e9_0005bc_0005c2, 0xfb2e_0005d0_0005b7, 0xfb2f_0005d0_0005b8, 0xfb30_0005d0_0005bc,
  0xfb31_0005d1_0005bc, 0xfb32_0005d2_0005bc, 0xfb33_0005d3_0005bc, 0xfb34_0005d4_0005bc,
  0xfb35_0005d5_0005bc, 0xfb36_0005d6_0005bc, 0xfb38_0005d8_0005bc, 0xfb39_0005d9_0005bc,
  0xfb3a_0005da_0005bc, 0xfb3b_0005db_0005bc, 0xfb3c_0005dc_0005bc, 0xfb3e_0005de_0005bc,
  0xfb40_0005e0_0005bc, 0xfb41_0005e1_0005bc, 0xfb43_0005e3_0005bc, 0xfb44_0005e4_0005bc,
  0xfb46_0005e6_0005bc, 0xfb47_0005e7_0005bc, 0xfb48_0005e8_0005bc, 0xfb49_0005e9_0005bc,
  0xfb4a_0005ea_0005bc, 0xfb4b_0005d5_0005b9, 0xfb4c_0005d1_0005bf, 0xfb4d_0005db_0005bf,
  0xfb4e_0005e4_0005bf, 0xfb4f_0005d0_0005dc, 0xfb50_000671, 0xfb51_000671, 0xfb52_00067b,
  0xfb53_00067b, 0xfb54_00067b, 0xfb55_00067b, 0xfb56_00067e, 0xfb57_00067e, 0xfb58_00067e,
  0xfb59_00067e, 0xfb5a_000680, 0xfb5b_000680, 0xfb5c_000680, 0xfb5d_000680, 0xfb5e_00067a,
  0xfb5f_00067a, 0xfb60_00067a, 0xfb61_00067a, 0xfb62_00067f, 0xfb63_00067f, 0xfb64_00067f,
  0xfb65_00067f, 0xfb66_000679, 0xfb67_000679, 0xfb68_000679, 0xfb69_000679, 0xfb6a_0006a4,
  0xfb6b_0006a4, 0xfb6c_0006a4, 0xfb6d_0006a4, 0xfb6e_0006a6, 0xfb6f_0006a6, 0xfb70_0006a6,
  0xfb71_0006a6, 0xfb72_000684, 0xfb73_000684, 0xfb74_000684, 0xfb75_000684, 0xfb76_000683,
  0xfb77_000683, 0xfb78_000683, 0xfb79_000683, 0xfb7a_000686, 0xfb7b_000686, 0xfb7c_000686,
  0xfb7d_000686, 0xfb7e_000687, 0xfb7f_000687, 0xfb80_000687, 0xfb81_000687, 0xfb82_00068d,
  0xfb83_00068d, 0xfb84_00068c, 0xfb85_00068c, 0xfb86_00068e, 0xfb87_00068e, 0xfb88_000688,
  0xfb89_000688, 0xfb8a_000698, 0xfb8b_000698, 0xfb8c_000691, 0xfb8d_000691, 0xfb8e_0006a9,
  0xfb8f_0006a9, 0xfb90_0006a9, 0xfb91_0006a9, 0xfb92_0006af, 0xfb93_0006af, 0xfb94_0006af,
  0xfb95_0006af, 0xfb96_0006b3, 0xfb97_0006b3, 0xfb98_0006b3, 0xfb99_0006b3, 0xfb9a_0006b1,
  0xfb9b_0006b1, 0xfb9c_0006b1, 0xfb9d_0006b1, 0xfb9e_0006ba, 0xfb9f_0006ba, 0xfba0_0006bb,
  0xfba1_0006bb, 0xfba2_0006bb, 0xfba3_0006bb, 0xfba4_0006d5_000654, 0xfba5_0006d5_000654,
  0xfba6_0006c1, 0xfba7_0006c1, 0xfba8_0006c1, 0xfba9_0006c1, 0xfbaa_0006be, 0xfbab_0006be,
  0xfbac_0006be, 0xfbad_0006be, 0xfbae_0006d2, 0xfbaf_0006d2, 0xfbb0_0006d2_000654,
  0xfbb1_0006d2_000654, 0xfbd3_0006ad, 0xfbd4_0006ad, 0xfbd5_0006ad, 0xfbd6_0006ad, 0xfbd7_0006c7,
  0xfbd8_0006c7, 0xfbd9_0006c6, 0xfbda_0006c6, 0xfbdb_0006c8, 0xfbdc_0006c8, 0xfbdd_0006c7_000674,
  0xfbde_0006cb, 0xfbdf_0006cb, 0xfbe0_0006c5, 0xfbe1_0006c5, 0xfbe2_0006c9, 0xfbe3_0006c9,
  0xfbe4_0006d0, 0xfbe5_0006d0, 0xfbe6_0006d0, 0xfbe7_0006d0, 0xfbe8_000649, 0xfbe9_000649,
  0xfbea_00064a_000654_000627, 0xfbeb_00064a_000654_000627, 0xfbec_00064a_000654_0006d5,
  0xfbed_00064a_000654_0006d5, 0xfbee_00064a_000654_000648, 0xfbef_00064a_000654_000648,
  0xfbf0_00064a_000654_0006c7, 0xfbf1_00064a_000654_0006c7, 0xfbf2_00064a_000654_0006c6,
  0xfbf3_00064a_000654_0006c6, 0xfbf4_00064a_000654_0006c8, 0xfbf5_00064a_000654_0006c8,
  0xfbf6_00064a_000654_0006d0, 0xfbf7_00064a_000654_0006d0, 0xfbf8_00064a_000654_0006d0,
  0xfbf9_00064a_000654_000649, 0xfbfa_00064a_000654_000649, 0xfbfb_00064a_000654_000649,
  0xfbfc_0006cc, 0xfbfd_0006cc, 0xfbfe_0006cc, 0xfbff_0006cc, 0xfc00_00064a_000654_00062c,
  0xfc01_00064a_000654_00062d, 0xfc02_00064a_000654_000645, 0xfc03_00064a_000654_000649,
  0xfc04_00064a_000654_00064a, 0xfc05_000628_00062c, 0xfc06_000628_00062d, 0xfc07_000628_00062e,
  0xfc08_000628_000645, 0xfc09_000628_000649, 0xfc0a_000628_00064a, 0xfc0b_00062a_00062c,
  0xfc0c_00062a_00062d, 0xfc0d_00062a_00062e, 0xfc0e_00062a_000645, 0xfc0f_00062a_000649,
  0xfc10_00062a_00064a, 0xfc11_00062b_00062c, 0xfc12_00062b_000645, 0xfc13_00062b_000649,
  0xfc14_00062b_00064a, 0xfc15_00062c_00062d, 0xfc16_00062c_000645, 0xfc17_00062d_00062c,
  0xfc18_00062d_000645, 0xfc19_00062e_00062c, 0xfc1a_00062e_00062d, 0xfc1b_00062e_000645,
  0xfc1c_000633_00062c, 0xfc1d_000633_00062d, 0xfc1e_000633_00062e, 0xfc1f_000633_000645,
  0xfc20_000635_00062d, 0xfc21_000635_000645, 0xfc22_000636_00062c, 0xfc23_000636_00062d,
  0xfc24_000636_00062e, 0xfc25_000636_000645, 0xfc26_000637_00062d, 0xfc27_000637_000645,
  0xfc28_000638_000645, 0xfc29_000639_00062c, 0xfc2a_000639_000645, 0xfc2b_00063a_00062c,
  0xfc2c_00063a_000645, 0xfc2d_000641_00062c, 0xfc2e_000641_00062d, 0xfc2f_000641_00062e,
  0xfc30_000641_000645, 0xfc31_000641_000649, 0xfc32_000641_00064a, 0xfc33_000642_00062d,
  0xfc34_000642_000645, 0xfc35_000642_000649, 0xfc36_000642_00064a, 0xfc37_000643_000627,
  0xfc38_000643_00062c, 0xfc39_000643_00062d, 0xfc3a_000643_00062e, 0xfc3b_000643_000644,
  0xfc3c_000643_000645, 0xfc3d_000643_000649, 0xfc3e_000643_00064a, 0xfc3f_000644_00062c,
  0xfc40_000644_00062d, 0xfc41_000644_00062e, 0xfc42_000644_000645, 0xfc43_000644_000649,
  0xfc44_000644_00064a, 0xfc45_000645_00062c, 0xfc46_000645_00062d, 0xfc47_000645_00062e,
  0xfc48_000645_000645, 0xfc49_000645_000649, 0xfc4a_000645_00064a, 0xfc4b_000646_00062c,
  0xfc4c_000646_00062d, 0xfc4d_000646_00062e, 0xfc4e_000646_000645, 0xfc4f_000646_000649,
  0xfc50_000646_00064a, 0xfc51_000647_00062c, 0xfc52_000647_000645, 0xfc53_000647_000649,
  0xfc54_000647_00064a, 0xfc55_00064a_00062c, 0xfc56_00064a_00062d, 0xfc57_00064a_00062e,
  0xfc58_00064a_000645, 0xfc59_00064a_000649, 0xfc5a_00064a_00064a, 0xfc5b_000630_000670,
  0xfc5c_000631_000670, 0xfc5d_000649_000670, 0xfc64_00064a_000654_000631,
  0xfc65_00064a_000654_000632, 0xfc66_00064a_000654_000645, 0xfc67_00064a_000654_000646,
  0xfc68_00064a_000654_000649, 0xfc69_00064a_000654_00064a, 0xfc6a_000628_000631,
  0xfc6b_000628_000632, 0xfc6c_000628_000645, 0xfc6d_000628_000646, 0xfc6e_000628_000649,
  0xfc6f_000628_00064a, 0xfc70_00062a_000631, 0xfc71_00062a_000632, 0xfc72_00062a_000645,
  0xfc73_00062a_000646, 0xfc74_00062a_000649, 0xfc75_00062a_00064a, 0xfc76_00062b_000631,
  0xfc77_00062b_000632, 0xfc78_00062b_000645, 0xfc79_00062b_000646, 0xfc7a_00062b_000649,
  0xfc7b_00062b_00064a, 0xfc7c_000641_000649, 0xfc7d_000641_00064a, 0xfc7e_000642_000649,
  0xfc7f_000642_00064a, 0xfc80_000643_000627, 0xfc81_000643_000644, 0xfc82_000643_000645,
  0xfc83_000643_000649, 0xfc84_000643_00064a, 0xfc85_000644_000645, 0xfc86_000644_000649,
  0xfc87_000644_00064a, 0xfc88_000645_000627, 0xfc89_000645_000645, 0xfc8a_000646_000631,
  0xfc8b_000646_000632, 0xfc8c_000646_000645, 0xfc8d_000646_000646, 0xfc8e_000646_000649,
  0xfc8f_000646_00064a, 0xfc90_000649_000670, 0xfc91_00064a_000631, 0xfc92_00064a_000632,
  0xfc93_00064a_000645, 0xfc94_00064a_000646, 0xfc95_00064a_000649, 0xfc96_00064a_00064a,
  0xfc97_00064a_000654_00062c, 0xfc98_00064a_000654_00062d, 0xfc99_00064a_000654_00062e,
  0xfc9a_00064a_000654_000645, 0xfc9b_00064a_000654_000647, 0xfc9c_000628_00062c,
  0xfc9d_000628_00062d, 0xfc9e_000628_00062e, 0xfc9f_000628_000645, 0xfca0_000628_000647,
  0xfca1_00062a_00062c, 0xfca2_00062a_00062d, 0xfca3_00062a_00062e, 0xfca4_00062a_000645,
  0xfca5_00062a_000647, 0xfca6_00062b_000645, 0xfca7_00062c_00062d, 0xfca8_00062c_000645,
  0xfca9_00062d_00062c, 0xfcaa_00062d_000645, 0xfcab_00062e_00062c, 0xfcac_00062e_000645,
  0xfcad_000633_00062c, 0xfcae_000633_00062d, 0xfcaf_000633_00062e, 0xfcb0_000633_000645,
  0xfcb1_000635_00062d, 0xfcb2_000635_00062e, 0xfcb3_000635_000645, 0xfcb4_000636_00062c,
  0xfcb5_000636_00062d, 0xfcb6_000636_00062e, 0xfcb7_000636_000645, 0xfcb8_000637_00062d,
  0xfcb9_000638_000645, 0xfcba_000639_00062c, 0xfcbb_000639_000645, 0xfcbc_00063a_00062c,
  0xfcbd_00063a_000645, 0xfcbe_000641_00062c, 0xfcbf_000641_00062d, 0xfcc0_000641_00062e,
  0xfcc1_000641_000645, 0xfcc2_000642_00062d, 0xfcc3_000642_000645, 0xfcc4_000643_00062c,
  0xfcc5_000643_00062d, 0xfcc6_000643_00062e, 0xfcc7_000643_000644, 0xfcc8_000643_000645,
  0xfcc9_000644_00062c, 0xfcca_000644_00062d, 0xfccb_000644_00062e, 0xfccc_000644_000645,
  0xfccd_000644_000647, 0xfcce_000645_00062c, 0xfccf_000645_00062d, 0xfcd0_000645_00062e,
  0xfcd1_000645_000645, 0xfcd2_000646_00062c, 0xfcd3_000646_00062d, 0xfcd4_000646_00062e,
  0xfcd5_000646_000645, 0xfcd6_000646_000647, 0xfcd7_000647_00062c, 0xfcd8_000647_000645,
  0xfcd9_000647_000670, 0xfcda_00064a_00062c, 0xfcdb_00064a_00062d, 0xfcdc_00064a_00062e,
  0xfcdd_00064a_000645, 0xfcde_00064a_000647, 0xfcdf_00064a_000654_000645,
  0xfce0_00064a_000654_000647, 0xfce1_000628_000645, 0xfce2_000628_000647, 0xfce3_00062a_000645,
  0xfce4_00062a_000647, 0xfce5_00062b_000645, 0xfce6_00062b_000647, 0xfce7_000633_000645,
  0xfce8_000633_000647, 0xfce9_000634_000645, 0xfcea_000634_000647, 0xfceb_000643_000644,
  0xfcec_000643_000645, 0xfced_000644_000645, 0xfcee_000646_000645, 0xfcef_000646_000647,
  0xfcf0_00064a_000645, 0xfcf1_00064a_000647, 0xfcf2_000640_00064e_000651,
  0xfcf3_000640_00064f_000651, 0xfcf4_000640_000650_000651, 0xfcf5_000637_000649,
  0xfcf6_000637_00064a, 0xfcf7_000639_000649, 0xfcf8_000639_00064a, 0xfcf9_00063a_000649,
  0xfcfa_00063a_00064a, 0xfcfb_000633_000649, 0xfcfc_000633_00064a, 0xfcfd_000634_000649,
  0xfcfe_000634_00064a, 0xfcff_00062d_000649, 0xfd00_00062d_00064a, 0xfd01_00062c_000649,
  0xfd02_00062c_00064a, 0xfd03_00062e_000649, 0xfd04_00062e_00064a, 0xfd05_000635_000649,
  0xfd06_000635_00064a, 0xfd07_000636_000649, 0xfd08_000636_00064a, 0xfd09_000634_00062c,
  0xfd0a_000634_00062d, 0xfd0b_000634_00062e, 0xfd0c_000634_000645, 0xfd0d_000634_000631,
  0xfd0e_000633_000631, 0xfd0f_000635_000631, 0xfd10_000636_000631, 0xfd11_000637_000649,
  0xfd12_000637_00064a, 0xfd13_000639_000649, 0xfd14_000639_00064a, 0xfd15_00063a_000649,
  0xfd16_00063a_00064a, 0xfd17_000633_000649, 0xfd18_000633_00064a, 0xfd19_000634_000649,
  0xfd1a_000634_00064a, 0xfd1b_00062d_000649, 0xfd1c_00062d_00064a, 0xfd1d_00062c_000649,
  0xfd1e_00062c_00064a, 0xfd1f_00062e_000649, 0xfd20_00062e_00064a, 0xfd21_000635_000649,
  0xfd22_000635_00064a, 0xfd23_000636_000649, 0xfd24_000636_00064a, 0xfd25_000634_00062c,
  0xfd26_000634_00062d, 0xfd27_000634_00062e, 0xfd28_000634_000645, 0xfd29_000634_000631,
  0xfd2a_000633_000631, 0xfd2b_000635_000631, 0xfd2c_000636_000631, 0xfd2d_000634_00062c,
  0xfd2e_000634_00062d, 0xfd2f_000634_00062e, 0xfd30_000634_000645, 0xfd31_000633_000647,
  0xfd32_000634_000647, 0xfd33_000637_000645, 0xfd34_000633_00062c, 0xfd35_000633_00062d,
  0xfd36_000633_00062e, 0xfd37_000634_00062c, 0xfd38_000634_00062d, 0xfd39_000634_00062e,
  0xfd3a_000637_000645, 0xfd3b_000638_000645, 0xfd3c_000627_00064b, 0xfd3d_000627_00064b,
  0xfd50_00062a_00062c_000645, 0xfd51_00062a_00062d_00062c, 0xfd52_00062a_00062d_00062c,
  0xfd53_00062a_00062d_000645, 0xfd54_00062a_00062e_000645, 0xfd55_00062a_000645_00062c,
  0xfd56_00062a_000645_00062d, 0xfd57_00062a_000645_00062e, 0xfd58_00062c_000645_00062d,
  0xfd59_00062c_000645_00062d, 0xfd5a_00062d_000645_00064a, 0xfd5b_00062d_000645_000649,
  0xfd5c_000633_00062d_00062c, 0xfd5d_000633_00062c_00062d, 0xfd5e_000633_00062c_000649,
  0xfd5f_000633_000645_00062d, 0xfd60_000633_000645_00062d, 0xfd61_000633_000645_00062c,
  0xfd62_000633_000645_000645, 0xfd63_000633_000645_000645, 0xfd64_000635_00062d_00062d,
  0xfd65_000635_00062d_00062d, 0xfd66_000635_000645_000645, 0xfd67_000634_00062d_000645,
  0xfd68_000634_00062d_000645, 0xfd69_000634_00062c_00064a, 0xfd6a_000634_000645_00062e,
  0xfd6b_000634_000645_00062e, 0xfd6c_000634_000645_000645, 0xfd6d_000634_000645_000645,
  0xfd6e_000636_00062d_000649, 0xfd6f_000636_00062e_000645, 0xfd70_000636_00062e_000645,
  0xfd71_000637_000645_00062d, 0xfd72_000637_000645_00062d, 0xfd73_000637_000645_000645,
  0xfd74_000637_000645_00064a, 0xfd75_000639_00062c_000645, 0xfd76_000639_000645_000645,
  0xfd77_000639_000645_000645, 0xfd78_000639_000645_000649, 0xfd79_00063a_000645_000645,
  0xfd7a_00063a_000645_00064a, 0xfd7b_00063a_000645_000649, 0xfd7c_000641_00062e_000645,
  0xfd7d_000641_00062e_000645, 0xfd7e_000642_000645_00062d, 0xfd7f_000642_000645_000645,
  0xfd80_000644_00062d_000645, 0xfd81_000644_00062d_00064a, 0xfd82_000644_00062d_000649,
  0xfd83_000644_00062c_00062c, 0xfd84_000644_00062c_00062c, 0xfd85_000644_00062e_000645,
  0xfd86_000644_00062e_000645, 0xfd87_000644_000645_00062d, 0xfd88_000644_000645_00062d,
  0xfd89_000645_00062d_00062c, 0xfd8a_000645_00062d_000645, 0xfd8b_000645_00062d_00064a,
  0xfd8c_000645_00062c_00062d, 0xfd8d_000645_00062c_000645, 0xfd8e_000645_00062e_00062c,
  0xfd8f_000645_00062e_000645, 0xfd92_000645_00062c_00062e, 0xfd93_000647_000645_00062c,
  0xfd94_000647_000645_000645, 0xfd95_000646_00062d_000645, 0xfd96_000646_00062d_000649,
  0xfd97_000646_00062c_000645, 0xfd98_000646_00062c_000645, 0xfd99_000646_00062c_000649,
  0xfd9a_000646_000645_00064a, 0xfd9b_000646_000645_000649, 0xfd9c_00064a_000645_000645,
  0xfd9d_00064a_000645_000645, 0xfd9e_000628_00062e_00064a, 0xfd9f_00062a_00062c_00064a,
  0xfda0_00062a_00062c_000649, 0xfda1_00062a_00062e_00064a, 0xfda2_00062a_00062e_000649,
  0xfda3_00062a_000645_00064a, 0xfda4_00062a_000645_000649, 0xfda5_00062c_000645_00064a,
  0xfda6_00062c_00062d_000649, 0xfda7_00062c_000645_000649, 0xfda8_000633_00062e_000649,
  0xfda9_000635_00062d_00064a, 0xfdaa_000634_00062d_00064a, 0xfdab_000636_00062d_00064a,
  0xfdac_000644_00062c_00064a, 0xfdad_000644_000645_00064a, 0xfdae_00064a_00062d_00064a,
  0xfdaf_00064a_00062c_00064a, 0xfdb0_00064a_000645_00064a, 0xfdb1_000645_000645_00064a,
  0xfdb2_000642_000645_00064a, 0xfdb3_000646_00062d_00064a, 0xfdb4_000642_000645_00062d,
  0xfdb5_000644_00062d_000645, 0xfdb6_000639_000645_00064a, 0xfdb7_000643_000645_00064a,
  0xfdb8_000646_00062c_00062d, 0xfdb9_000645_00062e_00064a, 0xfdba_000644_00062c_000645,
  0xfdbb_000643_000645_000645, 0xfdbc_000644_00062c_000645, 0xfdbd_000646_00062c_00062d,
  0xfdbe_00062c_00062d_00064a, 0xfdbf_00062d_00062c_00064a, 0xfdc0_000645_00062c_00064a,
  0xfdc1_000641_000645_00064a, 0xfdc2_000628_00062d_00064a, 0xfdc3_000643_000645_000645,
  0xfdc4_000639_00062c_000645, 0xfdc5_000635_000645_000645, 0xfdc6_000633_00062e_00064a,
  0xfdc7_000646_00062c_00064a, 0xfdf0_000635_000644_0006d2, 0xfdf1_000642_000644_0006d2,
  0xfdf2_000627_000644_000644_000647, 0xfdf3_000627_000643_000628_000631,
  0xfdf4_000645_00062d_000645_00062f, 0xfdf5_000635_000644_000639_000645,
  0xfdf6_000631_000633_000648_000644, 0xfdf7_000639_000644_00064a_000647,
  0xfdf8_000648_000633_000644_000645, 0xfdf9_000635_000644_000649, 0xfe33_00005f, 0xfe34_00005f,
  0xfe4d_00005f, 0xfe4e_00005f, 0xfe4f_00005f, 0xfe71_000640_00064b, 0xfe77_000640_00064e,
  0xfe79_000640_00064f, 0xfe7b_000640_000650, 0xfe7d_000640_000651, 0xfe7f_000640_000652,
  0xfe80_000621, 0xfe81_000627_000653, 0xfe82_000627_000653, 0xfe83_000627_000654,
  0xfe84_000627_000654, 0xfe85_000648_000654, 0xfe86_000648_000654, 0xfe87_000627_000655,
  0xfe88_000627_000655, 0xfe89_00064a_000654, 0xfe8a_00064a_000654, 0xfe8b_00064a_000654,
  0xfe8c_00064a_000654, 0xfe8d_000627, 0xfe8e_000627, 0xfe8f_000628, 0xfe90_000628, 0xfe91_000628,
  0xfe92_000628, 0xfe93_000629, 0xfe94_000629, 0xfe95_00062a, 0xfe96_00062a, 0xfe97_00062a,
  0xfe98_00062a, 0xfe99_00062b, 0xfe9a_00062b, 0xfe9b_00062b, 0xfe9c_00062b, 0xfe9d_00062c,
  0xfe9e_00062c, 0xfe9f_00062c, 0xfea0_00062c, 0xfea1_00062d, 0xfea2_00062d, 0xfea3_00062d,
  0xfea4_00062d, 0xfea5_00062e, 0xfea6_00062e, 0xfea7_00062e, 0xfea8_00062e, 0xfea9_00062f,
  0xfeaa_00062f, 0xfeab_000630, 0xfeac_000630, 0xfead_000631, 0xfeae_000631, 0xfeaf_000632,
  0xfeb0_000632, 0xfeb1_000633, 0xfeb2_000633, 0xfeb3_000633, 0xfeb4_000633, 0xfeb5_000634,
  0xfeb6_000634, 0xfeb7_000634, 0xfeb8_000634, 0xfeb9_000635, 0xfeba_000635, 0xfebb_000635,
  0xfebc_000635, 0xfebd_000636, 0xfebe_000636, 0xfebf_000636, 0xfec0_000636, 0xfec1_000637,
  0xfec2_000637, 0xfec3_000637, 0xfec4_000637, 0xfec5_000638, 0xfec6_000638, 0xfec7_000638,
  0xfec8_000638, 0xfec9_000639, 0xfeca_000639, 0xfecb_000639, 0xfecc_000639, 0xfecd_00063a,
  0xfece_00063a, 0xfecf_00063a, 0xfed0_00063a, 0xfed1_000641, 0xfed2_000641, 0xfed3_000641,
  0xfed4_000641, 0xfed5_000642, 0xfed6_000642, 0xfed7_000642, 0xfed8_000642, 0xfed9_000643,
  0xfeda_000643, 0xfedb_000643, 0xfedc_000643, 0xfedd_000644, 0xfede_000644, 0xfedf_000644,
  0xfee0_000644, 0xfee1_000645, 0xfee2_000645, 0xfee3_000645, 0xfee4_000645, 0xfee5_000646,
  0xfee6_000646, 0xfee7_000646, 0xfee8_000646, 0xfee9_000647, 0xfeea_000647, 0xfeeb_000647,
  0xfeec_000647, 0xfeed_000648, 0xfeee_000648, 0xfeef_000649, 0xfef0_000649, 0xfef1_00064a,
  0xfef2_00064a, 0xfef3_00064a, 0xfef4_00064a, 0xfef5_000644_000627_000653,
  0xfef6_000644_000627_000653, 0xfef7_000644_000627_000654, 0xfef8_000644_000627_000654,
  0xfef9_000644_000627_000655, 0xfefa_000644_000627_000655, 0xfefb_000644_000627,
  0xfefc_000644_000627, 0xff10_000030, 0xff11_000031, 0xff12_000032, 0xff13_000033, 0xff14_000034,
  0xff15_000035, 0xff16_000036, 0xff17_000037, 0xff18_000038, 0xff19_000039, 0xff21_000041,
  0xff22_000042, 0xff23_000043, 0xff24_000044, 0xff25_000045, 0xff26_000046, 0xff27_000047,
  0xff28_000048, 0xff29_000049, 0xff2a_00004a, 0xff2b_00004b, 0xff2c_00004c, 0xff2d_00004d,
  0xff2e_00004e, 0xff2f_00004f, 0xff30_000050, 0xff31_000051, 0xff32_000052, 0xff33_000053,
  0xff34_000054, 0xff35_000055, 0xff36_000056, 0xff37_000057, 0xff38_000058, 0xff39_000059,
  0xff3a_00005a, 0xff3f_00005f, 0xff41_000061, 0xff42_000062, 0xff43_000063, 0xff44_000064,
  0xff45_000065, 0xff46_000066, 0xff47_000067, 0xff48_000068, 0xff49_000069, 0xff4a_00006a,
  0xff4b_00006b, 0xff4c_00006c, 0xff4d_00006d, 0xff4e_00006e, 0xff4f_00006f, 0xff50_000070,
  0xff51_000071, 0xff52_000072, 0xff53_000073, 0xff54_000074, 0xff55_000075, 0xff56_000076,
  0xff57_000077, 0xff58_000078, 0xff59_000079, 0xff5a_00007a, 0xff66_0030f2, 0xff67_0030a1,
  0xff68_0030a3, 0xff69_0030a5, 0xff6a_0030a7, 0xff6b_0030a9, 0xff6c_0030e3, 0xff6d_0030e5,
  0xff6e_0030e7, 0xff6f_0030c3, 0xff70_0030fc, 0xff71_0030a2, 0xff72_0030a4, 0xff73_0030a6,
  0xff74_0030a8, 0xff75_0030aa, 0xff76_0030ab, 0xff77_0030ad, 0xff78_0030af, 0xff79_0030b1,
  0xff7a_0030b3, 0xff7b_0030b5, 0xff7c_0030b7, 0xff7d_0030b9, 0xff7e_0030bb, 0xff7f_0030bd,
  0xff80_0030bf, 0xff81_0030c1, 0xff82_0030c4, 0xff83_0030c6, 0xff84_0030c8, 0xff85_0030ca,
  0xff86_0030cb, 0xff87_0030cc, 0xff88_0030cd, 0xff89_0030ce, 0xff8a_0030cf, 0xff8b_0030d2,
  0xff8c_0030d5, 0xff8d_0030d8, 0xff8e_0030db, 0xff8f_0030de, 0xff90_0030df, 0xff91_0030e0,
  0xff92_0030e1, 0xff93_0030e2, 0xff94_0030e4, 0xff95_0030e6, 0xff96_0030e8, 0xff97_0030e9,
  0xff98_0030ea, 0xff99_0030eb, 0xff9a_0030ec, 0xff9b_0030ed, 0xff9c_0030ef, 0xff9d_0030f3,
  0xff9e_003099, 0xff9f_00309a, 0xffa0_001160, 0xffa1_001100, 0xffa2_001101, 0xffa3_0011aa,
  0xffa4_001102, 0xffa5_0011ac, 0xffa6_0011ad, 0xffa7_001103, 0xffa8_001104, 0xffa9_001105,
  0xffaa_0011b0, 0xffab_0011b1, 0xffac_0011b2, 0xffad_0011b3, 0xffae_0011b4, 0xffaf_0011b5,
  0xffb0_00111a, 0xffb1_001106, 0xffb2_001107, 0xffb3_001108, 0xffb4_001121, 0xffb5_001109,
  0xffb6_00110a, 0xffb7_00110b, 0xffb8_00110c, 0xffb9_00110d, 0xffba_00110e, 0xffbb_00110f,
  0xffbc_001110, 0xffbd_001111, 0xffbe_001112, 0xffc2_001161, 0xffc3_001162, 0xffc4_001163,
  0xffc5_001164, 0xffc6_001165, 0xffc7_001166, 0xffca_001167, 0xffcb_001168, 0xffcc_001169,
  0xffcd_00116a, 0xffce_00116b, 0xffcf_00116c, 0xffd2_00116d, 0xffd3_00116e, 0xffd4_00116f,
  0xffd5_001170, 0xffd6_001171, 0xffd7_001172, 0xffda_001173, 0xffdb_001174, 0xffdc_001175,
  0x10781_0002d0, 0x10782_0002d1, 0x10783_0000e6, 0x10784_000299, 0x10785_000253, 0x10787_0002a3,
  0x10788_00ab66, 0x10789_0002a5, 0x1078a_0002a4, 0x1078b_000256, 0x1078c_000257, 0x1078d_001d91,
  0x1078e_000258, 0x1078f_00025e, 0x10790_0002a9, 0x10791_000264, 0x10792_000262, 0x10793_000260,
  0x10794_00029b, 0x10795_000127, 0x10796_00029c, 0x10797_000267, 0x10798_000284, 0x10799_0002aa,
  0x1079a_0002ab, 0x1079b_00026c, 0x1079c_01df04, 0x1079d_00a78e, 0x1079e_00026e, 0x1079f_01df05,
  0x107a0_00028e, 0x107a1_01df06, 0x107a2_0000f8, 0x107a3_000276, 0x107a4_000277, 0x107a5_000071,
  0x107a6_00027a, 0x107a7_01df08, 0x107a8_00027d, 0x107a9_00027e, 0x107aa_000280, 0x107ab_0002a8,
  0x107ac_0002a6, 0x107ad_00ab67, 0x107ae_0002a7, 0x107af_000288, 0x107b0_002c71, 0x107b2_00028f,
  0x107b3_0002a1, 0x107b4_0002a2, 0x107b5_000298, 0x107b6_0001c0, 0x107b7_0001c1, 0x107b8_0001c2,
  0x107b9_01df0a, 0x107ba_01df1e, 0x1109a_011099_0110ba, 0x1109c_01109b_0110ba,
  0x110ab_0110a5_0110ba, 0x1112e_011131_011127, 0x1112f_011132_011127, 0x1134b_011347_01133e,
  0x1134c_011347_011357, 0x114bb_0114b9_0114ba, 0x114bc_0114b9_0114b0, 0x114be_0114b9_0114bd,
  0x115ba_0115b8_0115af, 0x115bb_0115b9_0115af, 0x11938_011935_011930]

def styledRows : List Nat := [
  0x1d400_000041, 0x1d401_000042, 0x1d402_000043, 0x1d403_000044, 0x1d404_000045, 0x1d405_000046,
  0x1d406_000047, 0x1d407_000048, 0x1d408_000049, 0x1d409_00004a, 0x1d40a_00004b, 0x1d40b_00004c,
  0x1d40c_00004d, 0x1d40d_00004e, 0x1d40e_00004f, 0x1d40f_000050, 0x1d410_000051, 0x1d411_000052,
  0x1d412_000053, 0x1d413_000054, 0x1d414_000055, 0x1d415_000056, 0x1d416_000057, 0x1d417_000058,
  0x1d418_000059, 0x1d419_00005a, 0x1d41a_000061, 0x1d41b_000062, 0x1d41c_000063, 0x1d41d_000064,
  0x1d41e_000065, 0x1d41f_000066, 0x1d420_000067, 0x1d421_000068, 0x1d422_000069, 0x1d423_00006a,
  0x1d424_00006b, 0x1d425_00006c, 0x1d426_00006d, 0x1d427_00006e, 0x1d428_00006f, 0x1d429_000070,
  0x1d42a_000071, 0x1d42b_000072, 0x1d42c_000073, 0x1d42d_000074, 0x1d42e_000075, 0x1d42f_000076,
  0x1d430_000077, 0x1d431_000078, 0x1d432_000079, 0x1d433_00007a, 0x1d434_000041, 0x1d435_000042,
  0x1d436_000043, 0x1d437_000044, 0x1d438_000045, 0x1d439_000046, 0x1d43a_000047, 0x1d43b_000048,
  0x1d43c_000049, 0x1d43d_00004a, 0x1d43e_00004b, 0x1d43f_00004c, 0x1d440_00004d, 0x1d441_00004e,
  0x1d442_00004f, 0x1d443_000050, 0x1d444_000051, 0x1d445_000052, 0x1d446_000053, 0x1d447_000054,
  0x1d448_000055, 0x1d449_000056, 0x1d44a_000057, 0x1d44b_000058, 0x1d44c_000059, 0x1d44d_00005a,
  0x1d44e_000061, 0x1d44f_000062, 0x1d450_000063, 0x1d451_000064, 0x1d452_000065, 0x1d453_000066,
  0x1d454_000067, 0x1d456_000069, 0x1d457_00006a, 0x1d458_00006b, 0x1d459_00006c, 0x1d45a_00006d,
  0x1d45b_00006e, 0x1d45c_00006f, 0x1d45d_000070, 0x1d45e_000071, 0x1d45f_000072, 0x1d460_000073,
  0x1d461_000074, 0x1d462_000075, 0x1d463_000076, 0x1d464_000077, 0x1d465_000078, 0x1d466_000079,
  0x1d467_00007a, 0x1d468_000041, 0x1d469_000042, 0x1d46a_000043, 0x1d46b_000044, 0x1d46c_000045,
  0x1d46d_000046, 0x1d46e_000047, 0x1d46f_000048, 0x1d470_000049, 0x1d471_00004a, 0x1d472_00004b,
  0x1d473_00004c, 0x1d474_00004d, 0x1d475_00004e, 0x1d476_00004f, 0x1d477_000050, 0x1d478_000051,
  0x1d479_000052, 0x1d47a_000053, 0x1d47b_000054, 0x1d47c_000055, 0x1d47d_000056, 0x1d47e_000057,
  0x1d47f_000058, 0x1d480_000059, 0x1d481_00005a, 0x1d482_000061, 0x1d483_000062, 0x1d484_000063,
  0x1d485_000064, 0x1d486_000065, 0x1d487_000066, 0x1d488_000067, 0x1d489_000068, 0x1d48a_000069,
  0x1d48b_00006a, 0x1d48c_00006b, 0x1d48d_00006c, 0x1d48e_00006d, 0x1d48f_00006e, 0x1d490_00006f,
  0x1d491_000070, 0x1d492_000071, 0x1d493_000072, 0x1d494_000073, 0x1d495_000074, 0x1d496_000075,
  0x1d497_000076, 0x1d498_000077, 0x1d499_000078, 0x1d49a_000079, 0x1d49b_00007a, 0x1d49c_000041,
  0x1d49e_000043, 0x1d49f_000044, 0x1d4a2_000047, 0x1d4a5_00004a, 0x1d4a6_00004b, 0x1d4a9_00004e,
  0x1d4aa_00004f, 0x1d4ab_000050, 0x1d4ac_000051, 0x1d4ae_000053, 0x1d4af_000054, 0x1d4b0_000055,
  0x1d4b1_000056, 0x1d4b2_000057, 0x1d4b3_000058, 0x1d4b4_000059, 0x1d4b5_00005a, 0x1d4b6_000061,
  0x1d4b7_000062, 0x1d4b8_000063, 0x1d4b9_000064, 0x1d4bb_000066, 0x1d4bd_000068, 0x1d4be_000069,
  0x1d4bf_00006a, 0x1d4c0_00006b, 0x1d4c1_00006c, 0x1d4c2_00006d, 0x1d4c3_00006e, 0x1d4c5_000070,
  0x1d4c6_000071, 0x1d4c7_000072, 0x1d4c8_000073, 0x1d4c9_000074, 0x1d4ca_000075, 0x1d4cb_000076,
  0x1d4cc_000077, 0x1d4cd_000078, 0x1d4ce_000079, 0x1d4cf_00007a, 0x1d4d0_000041, 0x1d4d1_000042,
  0x1d4d2_000043, 0x1d4d3_000044, 0x1d4d4_000045, 0x1d4d5_000046, 0x1d4d6_000047, 0x1d4d7_000048,
  0x1d4d8_000049, 0x1d4d9_00004a, 0x1d4da_00004b, 0x1d4db_00004c, 0x1d4dc_00004d, 0x1d4dd_00004e,
  0x1d4de_00004f, 0x1d4df_000050, 0x1d4e0_000051, 0x1d4e1_000052, 0x1d4e2_000053, 0x1d4e3_000054,
  0x1d4e4_000055, 0x1d4e5_000056, 0x1d4e6_000057, 0x1d4e7_000058, 0x1d4e8_000059, 0x1d4e9_00005a,
  0x1d4ea_000061, 0x1d4eb_000062, 0x1d4ec_000063, 0x1d4ed_000064, 0x1d4ee_000065, 0x1d4ef_000066,
  0x1d4f0_000067, 0x1d4f1_000068, 0x1d4f2_000069, 0x1d4f3_00006a, 0x1d4f4_00006b, 0x1d4f5_00006c,
  0x1d4f6_00006d, 0x1d4f7_00006e, 0x1d4f8_00006f, 0x1d4f9_000070, 0x1d4fa_000071, 0x1d4fb_000072,
  0x1d4fc_000073, 0x1d4fd_000074, 0x1d4fe_000075, 0x1d4ff_000076, 0x1d500_000077, 0x1d501_000078,
  0x1d502_000079, 0x1d503_00007a, 0x1d504_000041, 0x1d505_000042, 0x1d507_000044, 0x1d508_000045,
  0x1d509_000046, 0x1d50a_000047, 0x1d50d_00004a, 0x1d50e_00004b, 0x1d50f_00004c, 0x1d510_00004d,
  0x1d511_00004e, 0x1d512_00004f, 0x1d513_000050, 0x1d514_000051, 0x1d516_000053, 0x1d517_000054,
  0x1d518_000055, 0x1d519_000056, 0x1d51a_000057, 0x1d51b_000058, 0x1d51c_000059, 0x1d51e_000061,
  0x1d51f_000062, 0x1d520_000063, 0x1d521_000064, 0x1d522_000065, 0x1d523_000066, 0x1d524_000067,
  0x1d525_000068, 0x1d526_000069, 0x1d527_00006a, 0x1d528_00006b, 0x1d529_00006c, 0x1d52a_00006d,
  0x1d52b_00006e, 0x1d52c_00006f, 0x1d52d_000070, 0x1d52e_000071, 0x1d52f_000072, 0x1d530_000073,
  0x1d531_000074, 0x1d532_000075, 0x1d533_000076, 0x1d534_000077, 0x1d535_000078, 0x1d536_000079,
  0x1d537_00007a, 0x1d538_000041, 0x1d539_000042, 0x1d53b_000044, 0x1d53c_000045, 0x1d53d_000046,
  0x1d53e_000047, 0x1d540_000049, 0x1d541_00004a, 0x1d542_00004b, 0x1d543_00004c, 0x1d544_00004d,
  0x1d546_00004f, 0x1d54a_000053, 0x1d54b_000054, 0x1d54c_000055, 0x1d54d_000056, 0x1d54e_000057,
  0x1d54f_000058, 0x1d550_000059, 0x1d552_000061, 0x1d553_000062, 0x1d554_000063, 0x1d555_000064,
  0x1d556_000065, 0x1d557_000066, 0x1d558_000067, 0x1d559_000068, 0x1d55a_000069, 0x1d55b_00006a,
  0x1d55c_00006b, 0x1d55d_00006c, 0x1d55e_00006d, 0x1d55f_00006e, 0x1d560_00006f, 0x1d561_000070,
  0x1d562_000071, 0x1d563_000072, 0x1d564_000073, 0x1d565_000074, 0x1d566_000075, 0x1d567_000076,
  0x1d568_000077, 0x1d569_000078, 0x1d56a_000079, 0x1d56b_00007a, 0x1d56c_000041, 0x1d56d_000042,
  0x1d56e_000043, 0x1d56f_000044, 0x1d570_000045, 0x1d571_000046, 0x1d572_000047, 0x1d573_000048,
  0x1d574_000049, 0x1d575_00004a, 0x1d576_00004b, 0x1d577_00004c, 0x1d578_00004d, 0x1d579_00004e,
  0x1d57a_00004f, 0x1d57b_000050, 0x1d57c_000051, 0x1d57d_000052, 0x1d57e_000053, 0x1d57f_000054,
  0x1d580_000055, 0x1d581_000056, 0x1d582_000057, 0x1d583_000058, 0x1d584_000059, 0x1d585_00005a,
  0x1d586_000061, 0x1d587_000062, 0x1d588_000063, 0x1d589_000064, 0x1d58a_000065, 0x1d58b_000066,
  0x1d58c_000067, 0x1d58d_000068, 0x1d58e_000069, 0x1d58f_00006a, 0x1d590_00006b, 0x1d591_00006c,
  0x1d592_00006d, 0x1d593_00006e, 0x1d594_00006f, 0x1d595_000070, 0x1d596_000071, 0x1d597_000072,
  0x1d598_000073, 0x1d599_000074, 0x1d59a_000075, 0x1d59b_000076, 0x1d59c_000077, 0x1d59d_000078,
  0x1d59e_000079, 0x1d59f_00007a, 0x1d5a0_000041, 0x1d5a1_000042, 0x1d5a2_000043, 0x1d5a3_000044,
  0x1d5a4_000045, 0x1d5a5_000046, 0x1d5a6_000047, 0x1d5a7_000048, 0x1d5a8_000049, 0x1d5a9_00004a,
  0x1d5aa_00004b, 0x1d5ab_00004c, 0x1d5ac_00004d, 0x1d5ad_00004e, 0x1d5ae_00004f, 0x1d5af_000050,
  0x1d5b0_000051, 0x1d5b1_000052, 0x1d5b2_000053, 0x1d5b3_000054, 0x1d5b4_000055, 0x1d5b5_000056,
  0x1d5b6_000057, 0x1d5b7_000058, 0x1d5b8_000059, 0x1d5b9_00005a, 0x1d5ba_000061, 0x1d5bb_000062,
  0x1d5bc_000063, 0x1d5bd_000064, 0x1d5be_000065, 0x1d5bf_000066, 0x1d5c0_000067, 0x1d5c1_000068,
  0x1d5c2_000069, 0x1d5c3_00006a, 0x1d5c4_00006b, 0x1d5c5_00006c, 0x1d5c6_00006d, 0x1d5c7_00006e,
  0x1d5c8_00006f, 0x1d5c9_000070, 0x1d5ca_000071, 0x1d5cb_000072, 0x1d5cc_000073, 0x1d5cd_000074,
  0x1d5ce_000075, 0x1d5cf_000076, 0x1d5d0_000077, 0x1d5d1_000078, 0x1d5d2_000079, 0x1d5d3_00007a,
  0x1d5d4_000041, 0x1d5d5_000042, 0x1d5d6_000043, 0x1d5d7_000044, 0x1d5d8_000045, 0x1d5d9_000046,
  0x1d5da_000047, 0x1d5db_000048, 0x1d5dc_000049, 0x1d5dd_00004a, 0x1d5de_00004b, 0x1d5df_00004c,
  0x1d5e0_00004d, 0x1d5e1_00004e, 0x1d5e2_00004f, 0x1d5e3_000050, 0x1d5e4_000051, 0x1d5e5_000052,
  0x1d5e6_000053, 0x1d5e7_000054, 0x1d5e8_000055, 0x1d5e9_000056, 0x1d5ea_000057, 0x1d5eb_000058,
  0x1d5ec_000059, 0x1d5ed_00005a, 0x1d5ee_000061, 0x1d5ef_000062, 0x1d5f0_000063, 0x1d5f1_000064,
  0x1d5f2_000065, 0x1d5f3_000066, 0x1d5f4_000067, 0x1d5f5_000068, 0x1d5f6_000069, 0x1d5f7_00006a,
  0x1d5f8_00006b, 0x1d5f9_00006c, 0x1d5fa_00006d, 0x1d5fb_00006e, 0x1d5fc_00006f, 0x1d5fd_000070,
  0x1d5fe_000071, 0x1d5ff_000072, 0x1d600_000073, 0x1d601_000074, 0x1d602_000075, 0x1d603_000076,
  0x1d604_000077, 0x1d605_000078, 0x1d606_000079, 0x1d607_00007a, 0x1d608_000041, 0x1d609_000042,
  0x1d60a_000043, 0x1d60b_000044, 0x1d60c_000045, 0x1d60d_000046, 0x1d60e_000047, 0x1d60f_000048,
  0x1d610_000049, 0x1d611_00004a, 0x1d612_00004b, 0x1d613_00004c, 0x1d614_00004d, 0x1d615_00004e,
  0x1d616_00004f, 0x1d617_000050, 0x1d618_000051, 0x1d619_000052, 0x1d61a_000053, 0x1d61b_000054,
  0x1d61c_000055, 0x1d61d_000056, 0x1d61e_000057, 0x1d61f_000058, 0x1d620_000059, 0x1d621_00005a,
  0x1d622_000061, 0x1d623_000062, 0x1d624_000063, 0x1d625_000064, 0x1d626_000065, 0x1d627_000066,
  0x1d628_000067, 0x1d629_000068, 0x1d62a_000069, 0x1d62b_00006a, 0x1d62c_00006b, 0x1d62d_00006c,
  0x1d62e_00006d, 0x1d62f_00006e, 0x1d630_00006f, 0x1d631_000070, 0x1d632_000071, 0x1d633_000072,
  0x1d634_000073, 0x1d635_000074, 0x1d636_000075, 0x1d637_000076, 0x1d638_000077, 0x1d639_000078,
  0x1d63a_000079, 0x1d63b_00007a, 0x1d63c_000041, 0x1d63d_000042, 0x1d63e_000043, 0x1d63f_000044,
  0x1d640_000045, 0x1d641_000046, 0x1d642_000047, 0x1d643_000048, 0x1d644_000049, 0x1d645_00004a,
  0x1d646_00004b, 0x1d647_00004c, 0x1d648_00004d, 0x1d649_00004e, 0x1d64a_00004f, 0x1d64b_000050,
  0x1d64c_000051, 0x1d64d_000052, 0x1d64e_000053, 0x1d64f_000054, 0x1d650_000055, 0x1d651_000056,
  0x1d652_000057, 0x1d653_000058, 0x1d654_000059, 0x1d655_00005a, 0x1d656_000061, 0x1d657_000062,
  0x1d658_000063, 0x1d659_000064, 0x1d65a_000065, 0x1d65b_000066, 0x1d65c_000067, 0x1d65d_000068,
  0x1d65e_000069, 0x1d65f_00006a, 0x1d660_00006b, 0x1d661_00006c, 0x1d662_00006d, 0x1d663_00006e,
  0x1d664_00006f, 0x1d665_000070, 0x1d666_000071, 0x1d667_000072, 0x1d668_000073, 0x1d669_000074,
  0x1d66a_000075, 0x1d66b_000076, 0x1d66c_000077, 0x1d66d_000078, 0x1d66e_000079, 0x1d66f_00007a,
  0x1d670_000041, 0x1d671_000042, 0x1d672_000043, 0x1d673_000044, 0x1d674_000045, 0x1d675_000046,
  0x1d676_000047, 0x1d677_000048, 0x1d678_000049, 0x1d679_00004a, 0x1d67a_00004b, 0x1d67b_00004c,
  0x1d67c_00004d, 0x1d67d_00004e, 0x1d67e_00004f, 0x1d67f_000050, 0x1d680_000051, 0x1d681_000052,
  0x1d682_000053, 0x1d683_000054, 0x1d684_000055, 0x1d685_000056, 0x1d686_000057, 0x1d687_000058,
  0x1d688_000059, 0x1d689_00005a, 0x1d68a_000061, 0x1d68b_000062, 0x1d68c_000063, 0x1d68d_000064,
  0x1d68e_000065, 0x1d68f_000066, 0x1d690_000067, 0x1d691_000068, 0x1d692_000069, 0x1d693_00006a,
  0x1d694_00006b, 0x1d695_00006c, 0x1d696_00006d, 0x1d697_00006e, 0x1d698_00006f, 0x1d699_000070,
  0x1d69a_000071, 0x1d69b_000072, 0x1d69c_000073, 0x1d69d_000074, 0x1d69e_000075, 0x1d69f_000076,
  0x1d6a0_000077, 0x1d6a1_000078, 0x1d6a2_000079, 0x1d6a3_00007a, 0x1d6a4_000131, 0x1d6a5_000237,
  0x1d6a8_000391, 0x1d6a9_000392, 0x1d6aa_000393, 0x1d6ab_000394, 0x1d6ac_000395, 0x1d6ad_000396,
  0x1d6ae_000397, 0x1d6af_000398, 0x1d6b0_000399, 0x1d6b1_00039a, 0x1d6b2_00039b, 0x1d6b3_00039c,
  0x1d6b4_00039d, 0x1d6b5_00039e, 0x1d6b6_00039f, 0x1d6b7_0003a0, 0x1d6b8_0003a1, 0x1d6b9_000398,
  0x1d6ba_0003a3, 0x1d6bb_0003a4, 0x1d6bc_0003a5, 0x1d6bd_0003a6, 0x1d6be_0003a7, 0x1d6bf_0003a8,
  0x1d6c0_0003a9, 0x1d6c2_0003b1, 0x1d6c3_0003b2, 0x1d6c4_0003b3, 0x1d6c5_0003b4, 0x1d6c6_0003b5,
  0x1d6c7_0003b6, 0x1d6c8_0003b7, 0x1d6c9_0003b8, 0x1d6ca_0003b9, 0x1d6cb_0003ba, 0x1d6cc_0003bb,
  0x1d6cd_0003bc, 0x1d6ce_0003bd, 0x1d6cf_0003be, 0x1d6d0_0003bf, 0x1d6d1_0003c0, 0x1d6d2_0003c1,
  0x1d6d3_0003c2, 0x1d6d4_0003c3, 0x1d6d5_0003c4, 0x1d6d6_0003c5, 0x1d6d7_0003c6, 0x1d6d8_0003c7,
  0x1d6d9_0003c8, 0x1d6da_0003c9, 0x1d6dc_0003b5, 0x1d6dd_0003b8, 0x1d6de_0003ba, 0x1d6df_0003c6,
  0x1d6e0_0003c1, 0x1d6e1_0003c0, 0x1d6e2_000391, 0x1d6e3_000392, 0x1d6e4_000393, 0x1d6e5_000394,
  0x1d6e6_000395, 0x1d6e7_000396, 0x1d6e8_000397, 0x1d6e9_000398, 0x1d6ea_000399, 0x1d6eb_00039a,
  0x1d6ec_00039b, 0x1d6ed_00039c, 0x1d6ee_00039d, 0x1d6ef_00039e, 0x1d6f0_00039f, 0x1d6f1_0003a0,
  0x1d6f2_0003a1, 0x1d6f3_000398, 0x1d6f4_0003a3, 0x1d6f5_0003a4, 0x1d6f6_0003a5, 0x1d6f7_0003a6,
  0x1d6f8_0003a7, 0x1d6f9_0003a8, 0x1d6fa_0003a9, 0x1d6fc_0003b1, 0x1d6fd_0003b2, 0x1d6fe_0003b3,
  0x1d6ff_0003b4, 0x1d700_0003b5, 0x1d701_0003b6, 0x1d702_0003b7, 0x1d703_0003b8, 0x1d704_0003b9,
  0x1d705_0003ba, 0x1d706_0003bb, 0x1d707_0003bc, 0x1d708_0003bd, 0x1d709_0003be, 0x1d70a_0003bf,
  0x1d70b_0003c0, 0x1d70c_0003c1, 0x1d70d_0003c2, 0x1d70e_0003c3, 0x1d70f_0003c4, 0x1d710_0003c5,
  0x1d711_0003c6, 0x1d712_0003c7, 0x1d713_0003c8, 0x1d714_0003c9, 0x1d716_0003b5, 0x1d717_0003b8,
  0x1d718_0003ba, 0x1d719_0003c6, 0x1d71a_0003c1, 0x1d71b_0003c0, 0x1d71c_000391, 0x1d71d_000392,
  0x1d71e_000393, 0x1d71f_000394, 0x1d720_000395, 0x1d721_000396, 0x1d722_000397, 0x1d723_000398,
  0x1d724_000399, 0x1d725_00039a, 0x1d726_00039b, 0x1d727_00039c, 0x1d728_00039d, 0x1d729_00039e,
  0x1d72a_00039f, 0x1d72b_0003a0, 0x1d72c_0003a1, 0x1d72d_000398, 0x1d72e_0003a3, 0x1d72f_0003a4,
  0x1d730_0003a5, 0x1d731_0003a6, 0x1d732_0003a7, 0x1d733_0003a8, 0x1d734_0003a9, 0x1d736_0003b1,
  0x1d737_0003b2, 0x1d738_0003b3, 0x1d739_0003b4, 0x1d73a_0003b5, 0x1d73b_0003b6, 0x1d73c_0003b7,
  0x1d73d_0003b8, 0x1d73e_0003b9, 0x1d73f_0003ba, 0x1d740_0003bb, 0x1d741_0003bc, 0x1d742_0003bd,
  0x1d743_0003be, 0x1d744_0003bf, 0x1d745_0003c0, 0x1d746_0003c1, 0x1d747_0003c2, 0x1d748_0003c3,
  0x1d749_0003c4, 0x1d74a_0003c5, 0x1d74b_0003c6, 0x1d74c_0003c7, 0x1d74d_0003c8, 0x1d74e_0003c9,
  0x1d750_0003b5, 0x1d751_0003b8, 0x1d752_0003ba, 0x1d753_0003c6, 0x1d754_0003c1, 0x1d755_0003c0,
  0x1d756_000391, 0x1d757_000392, 0x1d758_000393, 0x1d759_000394, 0x1d75a_000395, 0x1d75b_000396,
  0x1d75c_000397, 0x1d75d_000398, 0x1d75e_000399, 0x1d75f_00039a, 0x1d760_00039b, 0x1d761_00039c,
  0x1d762_00039d, 0x1d763_00039e, 0x1d764_00039f, 0x1d765_0003a0, 0x1d766_0003a1, 0x1d767_000398,
  0x1d768_0003a3, 0x1d769_0003a4, 0x1d76a_0003a5, 0x1d76b_0003a6, 0x1d76c_0003a7, 0x1d76d_0003a8,
  0x1d76e_0003a9, 0x1d770_0003b1, 0x1d771_0003b2, 0x1d772_0003b3, 0x1d773_0003b4, 0x1d774_0003b5,
  0x1d775_0003b6, 0x1d776_0003b7, 0x1d777_0003b8, 0x1d778_0003b9, 0x1d779_0003ba, 0x1d77a_0003bb,
  0x1d77b_0003bc, 0x1d77c_0003bd, 0x1d77d_0003be, 0x1d77e_0003bf, 0x1d77f_0003c0, 0x1d780_0003c1,
  0x1d781_0003c2, 0x1d782_0003c3, 0x1d783_0003c4, 0x1d784_0003c5, 0x1d785_0003c6, 0x1d786_0003c7,
  0x1d787_0003c8, 0x1d788_0003c9, 0x1d78a_0003b5, 0x1d78b_0003b8, 0x1d78c_0003ba, 0x1d78d_0003c6,
  0x1d78e_0003c1, 0x1d78f_0003c0, 0x1d790_000391, 0x1d791_000392, 0x1d792_000393, 0x1d793_000394,
  0x1d794_000395, 0x1d795_000396, 0x1d796_000397, 0x1d797_000398, 0x1d798_000399, 0x1d799_00039a,
  0x1d79a_00039b, 0x1d79b_00039c, 0x1d79c_00039d, 0x1d79d_00039e, 0x1d79e_00039f, 0x1d79f_0003a0,
  0x1d7a0_0003a1, 0x1d7a1_000398, 0x1d7a2_0003a3, 0x1d7a3_0003a4, 0x1d7a4_0003a5, 0x1d7a5_0003a6,
  0x1d7a6_0003a7, 0x1d7a7_0003a8, 0x1d7a8_0003a9, 0x1d7aa_0003b1, 0x1d7ab_0003b2, 0x1d7ac_0003b3,
  0x1d7ad_0003b4, 0x1d7ae_0003b5, 0x1d7af_0003b6, 0x1d7b0_0003b7, 0x1d7b1_0003b8, 0x1d7b2_0003b9,
  0x1d7b3_0003ba, 0x1d7b4_0003bb, 0x1d7b5_0003bc, 0x1d7b6_0003bd, 0x1d7b7_0003be, 0x1d7b8_0003bf,
  0x1d7b9_0003c0, 0x1d7ba_0003c1, 0x1d7bb_0003c2, 0x1d7bc_0003c3, 0x1d7bd_0003c4, 0x1d7be_0003c5,
  0x1d7bf_0003c6, 0x1d7c0_0003c7, 0x1d7c1_0003c8, 0x1d7c2_0003c9, 0x1d7c4_0003b5, 0x1d7c5_0003b8,
  0x1d7c6_0003ba, 0x1d7c7_0003c6, 0x1d7c8_0003c1, 0x1d7c9_0003c0, 0x1d7ca_0003dc, 0x1d7cb_0003dd,
  0x1d7ce_000030, 0x1d7cf_000031, 0x1d7d0_000032, 0x1d7d1_000033, 0x1d7d2_000034, 0x1d7d3_000035,
  0x1d7d4_000036, 0x1d7d5_000037, 0x1d7d6_000038, 0x1d7d7_000039, 0x1d7d8_000030, 0x1d7d9_000031,
  0x1d7da_000032, 0x1d7db_000033, 0x1d7dc_000034, 0x1d7dd_000035, 0x1d7de_000036, 0x1d7df_000037,
  0x1d7e0_000038, 0x1d7e1_000039, 0x1d7e2_000030, 0x1d7e3_000031, 0x1d7e4_000032, 0x1d7e5_000033,
  0x1d7e6_000034, 0x1d7e7_000035, 0x1d7e8_000036, 0x1d7e9_000037, 0x1d7ea_000038, 0x1d7eb_000039,
  0x1d7ec_000030, 0x1d7ed_000031, 0x1d7ee_000032, 0x1d7ef_000033, 0x1d7f0_000034, 0x1d7f1_000035,
  0x1d7f2_000036, 0x1d7f3_000037, 0x1d7f4_000038, 0x1d7f5_000039, 0x1d7f6_000030, 0x1d7f7_000031,
  0x1d7f8_000032, 0x1d7f9_000033, 0x1d7fa_000034, 0x1d7fb_000035, 0x1d7fc_000036, 0x1d7fd_000037,
  0x1d7fe_000038, 0x1d7ff_000039, 0x1ee00_000627, 0x1ee01_000628, 0x1ee02_00062c, 0x1ee03_00062f,
  0x1ee05_000648, 0x1ee06_000632, 0x1ee07_00062d, 0x1ee08_000637, 0x1ee09_00064a, 0x1ee0a_000643,
  0x1ee0b_000644, 0x1ee0c_000645, 0x1ee0d_000646, 0x1ee0e_000633, 0x1ee0f_000639, 0x1ee10_000641,
  0x1ee11_000635, 0x1ee12_000642, 0x1ee13_000631, 0x1ee14_000634, 0x1ee15_00062a, 0x1ee16_00062b,
  0x1ee17_00062e, 0x1ee18_000630, 0x1ee19_000636, 0x1ee1a_000638, 0x1ee1b_00063a, 0x1ee1c_00066e,
  0x1ee1d_0006ba, 0x1ee1e_0006a1, 0x1ee1f_00066f, 0x1ee21_000628, 0x1ee22_00062c, 0x1ee24_000647,
  0x1ee27_00062d, 0x1ee29_00064a, 0x1ee2a_000643, 0x1ee2b_000644, 0x1ee2c_000645, 0x1ee2d_000646,
  0x1ee2e_000633, 0x1ee2f_000639, 0x1ee30_000641, 0x1ee31_000635, 0x1ee32_000642, 0x1ee34_000634,
  0x1ee35_00062a, 0x1ee36_00062b, 0x1ee37_00062e, 0x1ee39_000636, 0x1ee3b_00063a, 0x1ee42_00062c,
  0x1ee47_00062d, 0x1ee49_00064a, 0x1ee4b_000644, 0x1ee4d_000646, 0x1ee4e_000633, 0x1ee4f_000639,
  0x1ee51_000635, 0x1ee52_000642, 0x1ee54_000634, 0x1ee57_00062e, 0x1ee59_000636, 0x1ee5b_00063a,
  0x1ee5d_0006ba, 0x1ee5f_00066f, 0x1ee61_000628, 0x1ee62_00062c, 0x1ee64_000647, 0x1ee67_00062d,
  0x1ee68_000637, 0x1ee69_00064a, 0x1ee6a_000643, 0x1ee6c_000645, 0x1ee6d_000646, 0x1ee6e_000633,
  0x1ee6f_000639, 0x1ee70_000641, 0x1ee71_000635, 0x1ee72_000642, 0x1ee74_000634, 0x1ee75_00062a,
  0x1ee76_00062b, 0x1ee77_00062e, 0x1ee79_000636, 0x1ee7a_000638, 0x1ee7b_00063a, 0x1ee7c_00066e,
  0x1ee7e_0006a1, 0x1ee80_000627, 0x1ee81_000628, 0x1ee82_00062c, 0x1ee83_00062f, 0x1ee84_000647,
  0x1ee85_000648, 0x1ee86_000632, 0x1ee87_00062d, 0x1ee88_000637, 0x1ee89_00064a, 0x1ee8b_000644,
  0x1ee8c_000645, 0x1ee8d_000646, 0x1ee8e_000633, 0x1ee8f_000639, 0x1ee90_000641, 0x1ee91_000635,
  0x1ee92_000642, 0x1ee93_000631, 0x1ee94_000634, 0x1ee95_00062a, 0x1ee96_00062b, 0x1ee97_00062e,
  0x1ee98_000630, 0x1ee99_000636, 0x1ee9a_000638, 0x1ee9b_00063a, 0x1eea1_000628, 0x1eea2_00062c,
  0x1eea3_00062f, 0x1eea5_000648, 0x1eea6_000632, 0x1eea7_00062d, 0x1eea8_000637, 0x1eea9_00064a,
  0x1eeab_000644, 0x1eeac_000645, 0x1eead_000646, 0x1eeae_000633, 0x1eeaf_000639, 0x1eeb0_000641,
  0x1eeb1_000635, 0x1eeb2_000642, 0x1eeb3_000631, 0x1eeb4_000634, 0x1eeb5_00062a, 0x1eeb6_00062b,
  0x1eeb7_00062e, 0x1eeb8_000630, 0x1eeb9_000636, 0x1eeba_000638, 0x1eebb_00063a, 0x1fbf0_000030,
  0x1fbf1_000031, 0x1fbf2_000032, 0x1fbf3_000033, 0x1fbf4_000034, 0x1fbf5_000035, 0x1fbf6_000036,
  0x1fbf7_000037, 0x1fbf8_000038, 0x1fbf9_000039]

def supplementRows : List Nat := [
  0x2f800_004e3d, 0x2f801_004e38, 0x2f802_004e41, 0x2f803_020122, 0x2f804_004f60, 0x2f805_004fae,
  0x2f806_004fbb, 0x2f807_005002, 0x2f808_00507a, 0x2f809_005099, 0x2f80a_0050e7, 0x2f80b_0050cf,
  0x2f80c_00349e, 0x2f80d_02063a, 0x2f80e_00514d, 0x2f80f_005154, 0x2f810_005164, 0x2f811_005177,
  0x2f812_02051c, 0x2f813_0034b9, 0x2f814_005167, 0x2f815_00518d, 0x2f816_02054b, 0x2f817_005197,
  0x2f818_0051a4, 0x2f819_004ecc, 0x2f81a_0051ac, 0x2f81b_0051b5, 0x2f81c_0291df, 0x2f81d_0051f5,
  0x2f81e_005203, 0x2f81f_0034df, 0x2f820_00523b, 0x2f821_005246, 0x2f822_005272, 0x2f823_005277,
  0x2f824_003515, 0x2f825_0052c7, 0x2f826_0052c9, 0x2f827_0052e4, 0x2f828_0052fa, 0x2f829_005305,
  0x2f82a_005306, 0x2f82b_005317, 0x2f82c_005349, 0x2f82d_005351, 0x2f82e_00535a, 0x2f82f_005373,
  0x2f830_00537d, 0x2f831_00537f, 0x2f832_00537f, 0x2f833_00537f, 0x2f834_020a2c, 0x2f835_007070,
  0x2f836_0053ca, 0x2f837_0053df, 0x2f838_020b63, 0x2f839_0053eb, 0x2f83a_0053f1, 0x2f83b_005406,
  0x2f83c_00549e, 0x2f83d_005438, 0x2f83e_005448, 0x2f83f_005468, 0x2f840_0054a2, 0x2f841_0054f6,
  0x2f842_005510, 0x2f843_005553, 0x2f844_005563, 0x2f845_005584, 0x2f846_005584, 0x2f847_005599,
  0x2f848_0055ab, 0x2f849_0055b3, 0x2f84a_0055c2, 0x2f84b_005716, 0x2f84c_005606, 0x2f84d_005717,
  0x2f84e_005651, 0x2f84f_005674, 0x2f850_005207, 0x2f851_0058ee, 0x2f852_0057ce, 0x2f853_0057f4,
  0x2f854_00580d, 0x2f855_00578b, 0x2f856_005832, 0x2f857_005831, 0x2f858_0058ac, 0x2f859_0214e4,
  0x2f85a_0058f2, 0x2f85b_0058f7, 0x2f85c_005906, 0x2f85d_00591a, 0x2f85e_005922, 0x2f85f_005962,
  0x2f860_0216a8, 0x2f861_0216ea, 0x2f862_0059ec, 0x2f863_005a1b, 0x2f864_005a27, 0x2f865_0059d8,
  0x2f866_005a66, 0x2f867_0036ee, 0x2f868_0036fc, 0x2f869_005b08, 0x2f86a_005b3e, 0x2f86b_005b3e,
  0x2f86c_0219c8, 0x2f86d_005bc3, 0x2f86e_005bd8, 0x2f86f_005be7, 0x2f870_005bf3, 0x2f871_021b18,
  0x2f872_005bff, 0x2f873_005c06, 0x2f874_005f53, 0x2f875_005c22, 0x2f876_003781, 0x2f877_005c60,
  0x2f878_005c6e, 0x2f879_005cc0, 0x2f87a_005c8d, 0x2f87b_021de4, 0x2f87c_005d43, 0x2f87d_021de6,
  0x2f87e_005d6e, 0x2f87f_005d6b, 0x2f880_005d7c, 0x2f881_005de1, 0x2f882_005de2, 0x2f883_00382f,
  0x2f884_005dfd, 0x2f885_005e28, 0x2f886_005e3d, 0x2f887_005e69, 0x2f888_003862, 0x2f889_022183,
  0x2f88a_00387c, 0x2f88b_005eb0, 0x2f88c_005eb3, 0x2f88d_005eb6, 0x2f88e_005eca, 0x2f88f_02a392,
  0x2f890_005efe, 0x2f891_022331, 0x2f892_022331, 0x2f893_008201, 0x2f894_005f22, 0x2f895_005f22,
  0x2f896_0038c7, 0x2f897_0232b8, 0x2f898_0261da, 0x2f899_005f62, 0x2f89a_005f6b, 0x2f89b_0038e3,
  0x2f89c_005f9a, 0x2f89d_005fcd, 0x2f89e_005fd7, 0x2f89f_005ff9, 0x2f8a0_006081, 0x2f8a1_00393a,
  0x2f8a2_00391c, 0x2f8a3_006094, 0x2f8a4_0226d4, 0x2f8a5_0060c7, 0x2f8a6_006148, 0x2f8a7_00614c,
  0x2f8a8_00614e, 0x2f8a9_00614c, 0x2f8aa_00617a, 0x2f8ab_00618e, 0x2f8ac_0061b2, 0x2f8ad_0061a4,
  0x2f8ae_0061af, 0x2f8af_0061de, 0x2f8b0_0061f2, 0x2f8b1_0061f6, 0x2f8b2_006210, 0x2f8b3_00621b,
  0x2f8b4_00625d, 0x2f8b5_0062b1, 0x2f8b6_0062d4, 0x2f8b7_006350, 0x2f8b8_022b0c, 0x2f8b9_00633d,
  0x2f8ba_0062fc, 0x2f8bb_006368, 0x2f8bc_006383, 0x2f8bd_0063e4, 0x2f8be_022bf1, 0x2f8bf_006422,
  0x2f8c0_0063c5, 0x2f8c1_0063a9, 0x2f8c2_003a2e, 0x2f8c3_006469, 0x2f8c4_00647e, 0x2f8c5_00649d,
  0x2f8c6_006477, 0x2f8c7_003a6c, 0x2f8c8_00654f, 0x2f8c9_00656c, 0x2f8ca_02300a, 0x2f8cb_0065e3,
  0x2f8cc_0066f8, 0x2f8cd_006649, 0x2f8ce_003b19, 0x2f8cf_006691, 0x2f8d0_003b08, 0x2f8d1_003ae4,
  0x2f8d2_005192, 0x2f8d3_005195, 0x2f8d4_006700, 0x2f8d5_00669c, 0x2f8d6_0080ad, 0x2f8d7_0043d9,
  0x2f8d8_006717, 0x2f8d9_00671b, 0x2f8da_006721, 0x2f8db_00675e, 0x2f8dc_006753, 0x2f8dd_0233c3,
  0x2f8de_003b49, 0x2f8df_0067fa, 0x2f8e0_006785, 0x2f8e1_006852, 0x2f8e2_006885, 0x2f8e3_02346d,
  0x2f8e4_00688e, 0x2f8e5_00681f, 0x2f8e6_006914, 0x2f8e7_003b9d, 0x2f8e8_006942, 0x2f8e9_0069a3,
  0x2f8ea_0069ea, 0x2f8eb_006aa8, 0x2f8ec_0236a3, 0x2f8ed_006adb, 0x2f8ee_003c18, 0x2f8ef_006b21,
  0x2f8f0_0238a7, 0x2f8f1_006b54, 0x2f8f2_003c4e, 0x2f8f3_006b72, 0x2f8f4_006b9f, 0x2f8f5_006bba,
  0x2f8f6_006bbb, 0x2f8f7_023a8d, 0x2f8f8_021d0b, 0x2f8f9_023afa, 0x2f8fa_006c4e, 0x2f8fb_023cbc,
  0x2f8fc_006cbf, 0x2f8fd_006ccd, 0x2f8fe_006c67, 0x2f8ff_006d16, 0x2f900_006d3e, 0x2f901_006d77,
  0x2f902_006d41, 0x2f903_006d69, 0x2f904_006d78, 0x2f905_006d85, 0x2f906_023d1e, 0x2f907_006d34,
  0x2f908_006e2f, 0x2f909_006e6e, 0x2f90a_003d33, 0x2f90b_006ecb, 0x2f90c_006ec7, 0x2f90d_023ed1,
  0x2f90e_006df9, 0x2f90f_006f6e, 0x2f910_023f5e, 0x2f911_023f8e, 0x2f912_006fc6, 0x2f913_007039,
  0x2f914_00701e, 0x2f915_00701b, 0x2f916_003d96, 0x2f917_00704a, 0x2f918_00707d, 0x2f919_007077,
  0x2f91a_0070ad, 0x2f91b_020525, 0x2f91c_007145, 0x2f91d_024263, 0x2f91e_00719c, 0x2f91f_0243ab,
  0x2f920_007228, 0x2f921_007235, 0x2f922_007250, 0x2f923_024608, 0x2f924_007280, 0x2f925_007295,
  0x2f926_024735, 0x2f927_024814, 0x2f928_00737a, 0x2f929_00738b, 0x2f92a_003eac, 0x2f92b_0073a5,
  0x2f92c_003eb8, 0x2f92d_003eb8, 0x2f92e_007447, 0x2f92f_00745c, 0x2f930_007471, 0x2f931_007485,
  0x2f932_0074ca, 0x2f933_003f1b, 0x2f934_007524, 0x2f935_024c36, 0x2f936_00753e, 0x2f937_024c92,
  0x2f938_007570, 0x2f939_02219f, 0x2f93a_007610, 0x2f93b_024fa1, 0x2f93c_024fb8, 0x2f93d_025044,
  0x2f93e_003ffc, 0x2f93f_004008, 0x2f940_0076f4, 0x2f941_0250f3, 0x2f942_0250f2, 0x2f943_025119,
  0x2f944_025133, 0x2f945_00771e, 0x2f946_00771f, 0x2f947_00771f, 0x2f948_00774a, 0x2f949_004039,
  0x2f94a_00778b, 0x2f94b_004046, 0x2f94c_004096, 0x2f94d_02541d, 0x2f94e_00784e, 0x2f94f_00788c,
  0x2f950_0078cc, 0x2f951_0040e3, 0x2f952_025626, 0x2f953_007956, 0x2f954_02569a, 0x2f955_0256c5,
  0x2f956_00798f, 0x2f957_0079eb, 0x2f958_00412f, 0x2f959_007a40, 0x2f95a_007a4a, 0x2f95b_007a4f,
  0x2f95c_02597c, 0x2f95d_025aa7, 0x2f95e_025aa7, 0x2f95f_007aee, 0x2f960_004202, 0x2f961_025bab,
  0x2f962_007bc6, 0x2f963_007bc9, 0x2f964_004227, 0x2f965_025c80, 0x2f966_007cd2, 0x2f967_0042a0,
  0x2f968_007ce8, 0x2f969_007ce3, 0x2f96a_007d00, 0x2f96b_025f86, 0x2f96c_007d63, 0x2f96d_004301,
  0x2f96e_007dc7, 0x2f96f_007e02, 0x2f970_007e45, 0x2f971_004334, 0x2f972_026228, 0x2f973_026247,
  0x2f974_004359, 0x2f975_0262d9, 0x2f976_007f7a, 0x2f977_02633e, 0x2f978_007f95, 0x2f979_007ffa,
  0x2f97a_008005, 0x2f97b_0264da, 0x2f97c_026523, 0x2f97d_008060, 0x2f97e_0265a8, 0x2f97f_008070,
  0x2f980_02335f, 0x2f981_0043d5, 0x2f982_0080b2, 0x2f983_008103, 0x2f984_00440b, 0x2f985_00813e,
  0x2f986_005ab5, 0x2f987_0267a7, 0x2f988_0267b5, 0x2f989_023393, 0x2f98a_02339c, 0x2f98b_008201,
  0x2f98c_008204, 0x2f98d_008f9e, 0x2f98e_00446b, 0x2f98f_008291, 0x2f990_00828b, 0x2f991_00829d,
  0x2f992_0052b3, 0x2f993_0082b1, 0x2f994_0082b3, 0x2f995_0082bd, 0x2f996_0082e6, 0x2f997_026b3c,
  0x2f998_0082e5, 0x2f999_00831d, 0x2f99a_008363, 0x2f99b_0083ad, 0x2f99c_008323, 0x2f99d_0083bd,
  0x2f99e_0083e7, 0x2f99f_008457, 0x2f9a0_008353, 0x2f9a1_0083ca, 0x2f9a2_0083cc, 0x2f9a3_0083dc,
  0x2f9a4_026c36, 0x2f9a5_026d6b, 0x2f9a6_026cd5, 0x2f9a7_00452b, 0x2f9a8_0084f1, 0x2f9a9_0084f3,
  0x2f9aa_008516, 0x2f9ab_0273ca, 0x2f9ac_008564, 0x2f9ad_026f2c, 0x2f9ae_00455d, 0x2f9af_004561,
  0x2f9b0_026fb1, 0x2f9b1_0270d2, 0x2f9b2_00456b, 0x2f9b3_008650, 0x2f9b4_00865c, 0x2f9b5_008667,
  0x2f9b6_008669, 0x2f9b7_0086a9, 0x2f9b8_008688, 0x2f9b9_00870e, 0x2f9ba_0086e2, 0x2f9bb_008779,
  0x2f9bc_008728, 0x2f9bd_00876b, 0x2f9be_008786, 0x2f9bf_0045d7, 0x2f9c0_0087e1, 0x2f9c1_008801,
  0x2f9c2_0045f9, 0x2f9c3_008860, 0x2f9c4_008863, 0x2f9c5_027667, 0x2f9c6_0088d7, 0x2f9c7_0088de,
  0x2f9c8_004635, 0x2f9c9_0088fa, 0x2f9ca_0034bb, 0x2f9cb_0278ae, 0x2f9cc_027966, 0x2f9cd_0046be,
  0x2f9ce_0046c7, 0x2f9cf_008aa0, 0x2f9d0_008aed, 0x2f9d1_008b8a, 0x2f9d2_008c55, 0x2f9d3_027ca8,
  0x2f9d4_008cab, 0x2f9d5_008cc1, 0x2f9d6_008d1b, 0x2f9d7_008d77, 0x2f9d8_027f2f, 0x2f9d9_020804,
  0x2f9da_008dcb, 0x2f9db_008dbc, 0x2f9dc_008df0, 0x2f9dd_0208de, 0x2f9de_008ed4, 0x2f9df_008f38,
  0x2f9e0_0285d2, 0x2f9e1_0285ed, 0x2f9e2_009094, 0x2f9e3_0090f1, 0x2f9e4_009111, 0x2f9e5_02872e,
  0x2f9e6_00911b, 0x2f9e7_009238, 0x2f9e8_0092d7, 0x2f9e9_0092d8, 0x2f9ea_00927c, 0x2f9eb_0093f9,
  0x2f9ec_009415, 0x2f9ed_028bfa, 0x2f9ee_00958b, 0x2f9ef_004995, 0x2f9f0_0095b7, 0x2f9f1_028d77,
  0x2f9f2_0049e6, 0x2f9f3_0096c3, 0x2f9f4_005db2, 0x2f9f5_009723, 0x2f9f6_029145, 0x2f9f7_02921a,
  0x2f9f8_004a6e, 0x2f9f9_004a76, 0x2f9fa_0097e0, 0x2f9fb_02940a, 0x2f9fc_004ab2, 0x2f9fd_029496,
  0x2f9fe_00980b, 0x2f9ff_00980b, 0x2fa00_009829, 0x2fa01_0295b6, 0x2fa02_0098e2, 0x2fa03_004b33,
  0x2fa04_009929, 0x2fa05_0099a7, 0x2fa06_0099c2, 0x2fa07_0099fe, 0x2fa08_004bce, 0x2fa09_029b30,
  0x2fa0a_009b12, 0x2fa0b_009c40, 0x2fa0c_009cfd, 0x2fa0d_004cce, 0x2fa0e_004ced, 0x2fa0f_009d67,
  0x2fa10_02a0ce, 0x2fa11_004cf8, 0x2fa12_02a105, 0x2fa13_02a20e, 0x2fa14_02a291, 0x2fa15_009ebb,
  0x2fa16_004d56, 0x2fa17_009ef9, 0x2fa18_009efe, 0x2fa19_009f05, 0x2fa1a_009f0f, 0x2fa1b_009f16,
  0x2fa1c_009f3b, 0x2fa1d_02a600]

def decompositionRows : List Nat :=
  letterRows ++ ideographRows ++ presentationRows ++ styledRows ++ supplementRows

/-- A composed character, then the pair it stands for. -/
def compositionRows : List Nat := [
  0xc0_000041_000300, 0xc1_000041_000301, 0xc2_000041_000302, 0xc3_000041_000303,
  0xc4_000041_000308, 0xc5_000041_00030a, 0xc7_000043_000327, 0xc8_000045_000300,
  0xc9_000045_000301, 0xca_000045_000302, 0xcb_000045_000308, 0xcc_000049_000300,
  0xcd_000049_000301, 0xce_000049_000302, 0xcf_000049_000308, 0xd1_00004e_000303,
  0xd2_00004f_000300, 0xd3_00004f_000301, 0xd4_00004f_000302, 0xd5_00004f_000303,
  0xd6_00004f_000308, 0xd9_000055_000300, 0xda_000055_000301, 0xdb_000055_000302,
  0xdc_000055_000308, 0xdd_000059_000301, 0xe0_000061_000300, 0xe1_000061_000301,
  0xe2_000061_000302, 0xe3_000061_000303, 0xe4_000061_000308, 0xe5_000061_00030a,
  0xe7_000063_000327, 0xe8_000065_000300, 0xe9_000065_000301, 0xea_000065_000302,
  0xeb_000065_000308, 0xec_000069_000300, 0xed_000069_000301, 0xee_000069_000302,
  0xef_000069_000308, 0xf1_00006e_000303, 0xf2_00006f_000300, 0xf3_00006f_000301,
  0xf4_00006f_000302, 0xf5_00006f_000303, 0xf6_00006f_000308, 0xf9_000075_000300,
  0xfa_000075_000301, 0xfb_000075_000302, 0xfc_000075_000308, 0xfd_000079_000301,
  0xff_000079_000308, 0x100_000041_000304, 0x101_000061_000304, 0x102_000041_000306,
  0x103_000061_000306, 0x104_000041_000328, 0x105_000061_000328, 0x106_000043_000301,
  0x107_000063_000301, 0x108_000043_000302, 0x109_000063_000302, 0x10a_000043_000307,
  0x10b_000063_000307, 0x10c_000043_00030c, 0x10d_000063_00030c, 0x10e_000044_00030c,
  0x10f_000064_00030c, 0x112_000045_000304, 0x113_000065_000304, 0x114_000045_000306,
  0x115_000065_000306, 0x116_000045_000307, 0x117_000065_000307, 0x118_000045_000328,
  0x119_000065_000328, 0x11a_000045_00030c, 0x11b_000065_00030c, 0x11c_000047_000302,
  0x11d_000067_000302, 0x11e_000047_000306, 0x11f_000067_000306, 0x120_000047_000307,
  0x121_000067_000307, 0x122_000047_000327, 0x123_000067_000327, 0x124_000048_000302,
  0x125_000068_000302, 0x128_000049_000303, 0x129_000069_000303, 0x12a_000049_000304,
  0x12b_000069_000304, 0x12c_000049_000306, 0x12d_000069_000306, 0x12e_000049_000328,
  0x12f_000069_000328, 0x130_000049_000307, 0x134_00004a_000302, 0x135_00006a_000302,
  0x136_00004b_000327, 0x137_00006b_000327, 0x139_00004c_000301, 0x13a_00006c_000301,
  0x13b_00004c_000327, 0x13c_00006c_000327, 0x13d_00004c_00030c, 0x13e_00006c_00030c,
  0x143_00004e_000301, 0x144_00006e_000301, 0x145_00004e_000327, 0x146_00006e_000327,
  0x147_00004e_00030c, 0x148_00006e_00030c, 0x14c_00004f_000304, 0x14d_00006f_000304,
  0x14e_00004f_000306, 0x14f_00006f_000306, 0x150_00004f_00030b, 0x151_00006f_00030b,
  0x154_000052_000301, 0x155_000072_000301, 0x156_000052_000327, 0x157_000072_000327,
  0x158_000052_00030c, 0x159_000072_00030c, 0x15a_000053_000301, 0x15b_000073_000301,
  0x15c_000053_000302, 0x15d_000073_000302, 0x15e_000053_000327, 0x15f_000073_000327,
  0x160_000053_00030c, 0x161_000073_00030c, 0x162_000054_000327, 0x163_000074_000327,
  0x164_000054_00030c, 0x165_000074_00030c, 0x168_000055_000303, 0x169_000075_000303,
  0x16a_000055_000304, 0x16b_000075_000304, 0x16c_000055_000306, 0x16d_000075_000306,
  0x16e_000055_00030a, 0x16f_000075_00030a, 0x170_000055_00030b, 0x171_000075_00030b,
  0x172_000055_000328, 0x173_000075_000328, 0x174_000057_000302, 0x175_000077_000302,
  0x176_000059_000302, 0x177_000079_000302, 0x178_000059_000308, 0x179_00005a_000301,
  0x17a_00007a_000301, 0x17b_00005a_000307, 0x17c_00007a_000307, 0x17d_00005a_00030c,
  0x17e_00007a_00030c, 0x1a0_00004f_00031b, 0x1a1_00006f_00031b, 0x1af_000055_00031b,
  0x1b0_000075_00031b, 0x1cd_000041_00030c, 0x1ce_000061_00030c, 0x1cf_000049_00030c,
  0x1d0_000069_00030c, 0x1d1_00004f_00030c, 0x1d2_00006f_00030c, 0x1d3_000055_00030c,
  0x1d4_000075_00030c, 0x1d5_0000dc_000304, 0x1d6_0000fc_000304, 0x1d7_0000dc_000301,
  0x1d8_0000fc_000301, 0x1d9_0000dc_00030c, 0x1da_0000fc_00030c, 0x1db_0000dc_000300,
  0x1dc_0000fc_000300, 0x1de_0000c4_000304, 0x1df_0000e4_000304, 0x1e0_000226_000304,
  0x1e1_000227_000304, 0x1e2_0000c6_000304, 0x1e3_0000e6_000304, 0x1e6_000047_00030c,
  0x1e7_000067_00030c, 0x1e8_00004b_00030c, 0x1e9_00006b_00030c, 0x1ea_00004f_000328,
  0x1eb_00006f_000328, 0x1ec_0001ea_000304, 0x1ed_0001eb_000304, 0x1ee_0001b7_00030c,
  0x1ef_000292_00030c, 0x1f0_00006a_00030c, 0x1f4_000047_000301, 0x1f5_000067_000301,
  0x1f8_00004e_000300, 0x1f9_00006e_000300, 0x1fa_0000c5_000301, 0x1fb_0000e5_000301,
  0x1fc_0000c6_000301, 0x1fd_0000e6_000301, 0x1fe_0000d8_000301, 0x1ff_0000f8_000301,
  0x200_000041_00030f, 0x201_000061_00030f, 0x202_000041_000311, 0x203_000061_000311,
  0x204_000045_00030f, 0x205_000065_00030f, 0x206_000045_000311, 0x207_000065_000311,
  0x208_000049_00030f, 0x209_000069_00030f, 0x20a_000049_000311, 0x20b_000069_000311,
  0x20c_00004f_00030f, 0x20d_00006f_00030f, 0x20e_00004f_000311, 0x20f_00006f_000311,
  0x210_000052_00030f, 0x211_000072_00030f, 0x212_000052_000311, 0x213_000072_000311,
  0x214_000055_00030f, 0x215_000075_00030f, 0x216_000055_000311, 0x217_000075_000311,
  0x218_000053_000326, 0x219_000073_000326, 0x21a_000054_000326, 0x21b_000074_000326,
  0x21e_000048_00030c, 0x21f_000068_00030c, 0x226_000041_000307, 0x227_000061_000307,
  0x228_000045_000327, 0x229_000065_000327, 0x22a_0000d6_000304, 0x22b_0000f6_000304,
  0x22c_0000d5_000304, 0x22d_0000f5_000304, 0x22e_00004f_000307, 0x22f_00006f_000307,
  0x230_00022e_000304, 0x231_00022f_000304, 0x232_000059_000304, 0x233_000079_000304,
  0x385_0000a8_000301, 0x386_000391_000301, 0x388_000395_000301, 0x389_000397_000301,
  0x38a_000399_000301, 0x38c_00039f_000301, 0x38e_0003a5_000301, 0x38f_0003a9_000301,
  0x390_0003ca_000301, 0x3aa_000399_000308, 0x3ab_0003a5_000308, 0x3ac_0003b1_000301,
  0x3ad_0003b5_000301, 0x3ae_0003b7_000301, 0x3af_0003b9_000301, 0x3b0_0003cb_000301,
  0x3ca_0003b9_000308, 0x3cb_0003c5_000308, 0x3cc_0003bf_000301, 0x3cd_0003c5_000301,
  0x3ce_0003c9_000301, 0x3d3_0003d2_000301, 0x3d4_0003d2_000308, 0x400_000415_000300,
  0x401_000415_000308, 0x403_000413_000301, 0x407_000406_000308, 0x40c_00041a_000301,
  0x40d_000418_000300, 0x40e_000423_000306, 0x419_000418_000306, 0x439_000438_000306,
  0x450_000435_000300, 0x451_000435_000308, 0x453_000433_000301, 0x457_000456_000308,
  0x45c_00043a_000301, 0x45d_000438_000300, 0x45e_000443_000306, 0x476_000474_00030f,
  0x477_000475_00030f, 0x4c1_000416_000306, 0x4c2_000436_000306, 0x4d0_000410_000306,
  0x4d1_000430_000306, 0x4d2_000410_000308, 0x4d3_000430_000308, 0x4d6_000415_000306,
  0x4d7_000435_000306, 0x4da_0004d8_000308, 0x4db_0004d9_000308, 0x4dc_000416_000308,
  0x4dd_000436_000308, 0x4de_000417_000308, 0x4df_000437_000308, 0x4e2_000418_000304,
  0x4e3_000438_000304, 0x4e4_000418_000308, 0x4e5_000438_000308, 0x4e6_00041e_000308,
  0x4e7_00043e_000308, 0x4ea_0004e8_000308, 0x4eb_0004e9_000308, 0x4ec_00042d_000308,
  0x4ed_00044d_000308, 0x4ee_000423_000304, 0x4ef_000443_000304, 0x4f0_000423_000308,
  0x4f1_000443_000308, 0x4f2_000423_00030b, 0x4f3_000443_00030b, 0x4f4_000427_000308,
  0x4f5_000447_000308, 0x4f8_00042b_000308, 0x4f9_00044b_000308, 0x622_000627_000653,
  0x623_000627_000654, 0x624_000648_000654, 0x625_000627_000655, 0x626_00064a_000654,
  0x6c0_0006d5_000654, 0x6c2_0006c1_000654, 0x6d3_0006d2_000654, 0x929_000928_00093c,
  0x931_000930_00093c, 0x934_000933_00093c, 0x9cb_0009c7_0009be, 0x9cc_0009c7_0009d7,
  0xb48_000b47_000b56, 0xb4b_000b47_000b3e, 0xb4c_000b47_000b57, 0xb94_000b92_000bd7,
  0xbca_000bc6_000bbe, 0xbcb_000bc7_000bbe, 0xbcc_000bc6_000bd7, 0xc48_000c46_000c56,
  0xcc0_000cbf_000cd5, 0xcc7_000cc6_000cd5, 0xcc8_000cc6_000cd6, 0xcca_000cc6_000cc2,
  0xccb_000cca_000cd5, 0xd4a_000d46_000d3e, 0xd4b_000d47_000d3e, 0xd4c_000d46_000d57,
  0xdda_000dd9_000dca, 0xddc_000dd9_000dcf, 0xddd_000ddc_000dca, 0xdde_000dd9_000ddf,
  0x1026_001025_00102e, 0x1b06_001b05_001b35, 0x1b08_001b07_001b35, 0x1b0a_001b09_001b35,
  0x1b0c_001b0b_001b35, 0x1b0e_001b0d_001b35, 0x1b12_001b11_001b35, 0x1b3b_001b3a_001b35,
  0x1b3d_001b3c_001b35, 0x1b40_001b3e_001b35, 0x1b41_001b3f_001b35, 0x1b43_001b42_001b35,
  0x1e00_000041_000325, 0x1e01_000061_000325, 0x1e02_000042_000307, 0x1e03_000062_000307,
  0x1e04_000042_000323, 0x1e05_000062_000323, 0x1e06_000042_000331, 0x1e07_000062_000331,
  0x1e08_0000c7_000301, 0x1e09_0000e7_000301, 0x1e0a_000044_000307, 0x1e0b_000064_000307,
  0x1e0c_000044_000323, 0x1e0d_000064_000323, 0x1e0e_000044_000331, 0x1e0f_000064_000331,
  0x1e10_000044_000327, 0x1e11_000064_000327, 0x1e12_000044_00032d, 0x1e13_000064_00032d,
  0x1e14_000112_000300, 0x1e15_000113_000300, 0x1e16_000112_000301, 0x1e17_000113_000301,
  0x1e18_000045_00032d, 0x1e19_000065_00032d, 0x1e1a_000045_000330, 0x1e1b_000065_000330,
  0x1e1c_000228_000306, 0x1e1d_000229_000306, 0x1e1e_000046_000307, 0x1e1f_000066_000307,
  0x1e20_000047_000304, 0x1e21_000067_000304, 0x1e22_000048_000307, 0x1e23_000068_000307,
  0x1e24_000048_000323, 0x1e25_000068_000323, 0x1e26_000048_000308, 0x1e27_000068_000308,
  0x1e28_000048_000327, 0x1e29_000068_000327, 0x1e2a_000048_00032e, 0x1e2b_000068_00032e,
  0x1e2c_000049_000330, 0x1e2d_000069_000330, 0x1e2e_0000cf_000301, 0x1e2f_0000ef_000301,
  0x1e30_00004b_000301, 0x1e31_00006b_000301, 0x1e32_00004b_000323, 0x1e33_00006b_000323,
  0x1e34_00004b_000331, 0x1e35_00006b_000331, 0x1e36_00004c_000323, 0x1e37_00006c_000323,
  0x1e38_001e36_000304, 0x1e39_001e37_000304, 0x1e3a_00004c_000331, 0x1e3b_00006c_000331,
  0x1e3c_00004c_00032d, 0x1e3d_00006c_00032d, 0x1e3e_00004d_000301, 0x1e3f_00006d_000301,
  0x1e40_00004d_000307, 0x1e41_00006d_000307, 0x1e42_00004d_000323, 0x1e43_00006d_000323,
  0x1e44_00004e_000307, 0x1e45_00006e_000307, 0x1e46_00004e_000323, 0x1e47_00006e_000323,
  0x1e48_00004e_000331, 0x1e49_00006e_000331, 0x1e4a_00004e_00032d, 0x1e4b_00006e_00032d,
  0x1e4c_0000d5_000301, 0x1e4d_0000f5_000301, 0x1e4e_0000d5_000308, 0x1e4f_0000f5_000308,
  0x1e50_00014c_000300, 0x1e51_00014d_000300, 0x1e52_00014c_000301, 0x1e53_00014d_000301,
  0x1e54_000050_000301, 0x1e55_000070_000301, 0x1e56_000050_000307, 0x1e57_000070_000307,
  0x1e58_000052_000307, 0x1e59_000072_000307, 0x1e5a_000052_000323, 0x1e5b_000072_000323,
  0x1e5c_001e5a_000304, 0x1e5d_001e5b_000304, 0x1e5e_000052_000331, 0x1e5f_000072_000331,
  0x1e60_000053_000307, 0x1e61_000073_000307, 0x1e62_000053_000323, 0x1e63_000073_000323,
  0x1e64_00015a_000307, 0x1e65_00015b_000307, 0x1e66_000160_000307, 0x1e67_000161_000307,
  0x1e68_001e62_000307, 0x1e69_001e63_000307, 0x1e6a_000054_000307, 0x1e6b_000074_000307,
  0x1e6c_000054_000323, 0x1e6d_000074_000323, 0x1e6e_000054_000331, 0x1e6f_000074_000331,
  0x1e70_000054_00032d, 0x1e71_000074_00032d, 0x1e72_000055_000324, 0x1e73_000075_000324,
  0x1e74_000055_000330, 0x1e75_000075_000330, 0x1e76_000055_00032d, 0x1e77_000075_00032d,
  0x1e78_000168_000301, 0x1e79_000169_000301, 0x1e7a_00016a_000308, 0x1e7b_00016b_000308,
  0x1e7c_000056_000303, 0x1e7d_000076_000303, 0x1e7e_000056_000323, 0x1e7f_000076_000323,
  0x1e80_000057_000300, 0x1e81_000077_000300, 0x1e82_000057_000301, 0x1e83_000077_000301,
  0x1e84_000057_000308, 0x1e85_000077_000308, 0x1e86_000057_000307, 0x1e87_000077_000307,
  0x1e88_000057_000323, 0x1e89_000077_000323, 0x1e8a_000058_000307, 0x1e8b_000078_000307,
  0x1e8c_000058_000308, 0x1e8d_000078_000308, 0x1e8e_000059_000307, 0x1e8f_000079_000307,
  0x1e90_00005a_000302, 0x1e91_00007a_000302, 0x1e92_00005a_000323, 0x1e93_00007a_000323,
  0x1e94_00005a_000331, 0x1e95_00007a_000331, 0x1e96_000068_000331, 0x1e97_000074_000308,
  0x1e98_000077_00030a, 0x1e99_000079_00030a, 0x1e9b_00017f_000307, 0x1ea0_000041_000323,
  0x1ea1_000061_000323, 0x1ea2_000041_000309, 0x1ea3_000061_000309, 0x1ea4_0000c2_000301,
  0x1ea5_0000e2_000301, 0x1ea6_0000c2_000300, 0x1ea7_0000e2_000300, 0x1ea8_0000c2_000309,
  0x1ea9_0000e2_000309, 0x1eaa_0000c2_000303, 0x1eab_0000e2_000303, 0x1eac_001ea0_000302,
  0x1ead_001ea1_000302, 0x1eae_000102_000301, 0x1eaf_000103_000301, 0x1eb0_000102_000300,
  0x1eb1_000103_000300, 0x1eb2_000102_000309, 0x1eb3_000103_000309, 0x1eb4_000102_000303,
  0x1eb5_000103_000303, 0x1eb6_001ea0_000306, 0x1eb7_001ea1_000306, 0x1eb8_000045_000323,
  0x1eb9_000065_000323, 0x1eba_000045_000309, 0x1ebb_000065_000309, 0x1ebc_000045_000303,
  0x1ebd_000065_000303, 0x1ebe_0000ca_000301, 0x1ebf_0000ea_000301, 0x1ec0_0000ca_000300,
  0x1ec1_0000ea_000300, 0x1ec2_0000ca_000309, 0x1ec3_0000ea_000309, 0x1ec4_0000ca_000303,
  0x1ec5_0000ea_000303, 0x1ec6_001eb8_000302, 0x1ec7_001eb9_000302, 0x1ec8_000049_000309,
  0x1ec9_000069_000309, 0x1eca_000049_000323, 0x1ecb_000069_000323, 0x1ecc_00004f_000323,
  0x1ecd_00006f_000323, 0x1ece_00004f_000309, 0x1ecf_00006f_000309, 0x1ed0_0000d4_000301,
  0x1ed1_0000f4_000301, 0x1ed2_0000d4_000300, 0x1ed3_0000f4_000300, 0x1ed4_0000d4_000309,
  0x1ed5_0000f4_000309, 0x1ed6_0000d4_000303, 0x1ed7_0000f4_000303, 0x1ed8_001ecc_000302,
  0x1ed9_001ecd_000302, 0x1eda_0001a0_000301, 0x1edb_0001a1_000301, 0x1edc_0001a0_000300,
  0x1edd_0001a1_000300, 0x1ede_0001a0_000309, 0x1edf_0001a1_000309, 0x1ee0_0001a0_000303,
  0x1ee1_0001a1_000303, 0x1ee2_0001a0_000323, 0x1ee3_0001a1_000323, 0x1ee4_000055_000323,
  0x1ee5_000075_000323, 0x1ee6_000055_000309, 0x1ee7_000075_000309, 0x1ee8_0001af_000301,
  0x1ee9_0001b0_000301, 0x1eea_0001af_000300, 0x1eeb_0001b0_000300, 0x1eec_0001af_000309,
  0x1eed_0001b0_000309, 0x1eee_0001af_000303, 0x1eef_0001b0_000303, 0x1ef0_0001af_000323,
  0x1ef1_0001b0_000323, 0x1ef2_000059_000300, 0x1ef3_000079_000300, 0x1ef4_000059_000323,
  0x1ef5_000079_000323, 0x1ef6_000059_000309, 0x1ef7_000079_000309, 0x1ef8_000059_000303,
  0x1ef9_000079_000303, 0x1f00_0003b1_000313, 0x1f01_0003b1_000314, 0x1f02_001f00_000300,
  0x1f03_001f01_000300, 0x1f04_001f00_000301, 0x1f05_001f01_000301, 0x1f06_001f00_000342,
  0x1f07_001f01_000342, 0x1f08_000391_000313, 0x1f09_000391_000314, 0x1f0a_001f08_000300,
  0x1f0b_001f09_000300, 0x1f0c_001f08_000301, 0x1f0d_001f09_000301, 0x1f0e_001f08_000342,
  0x1f0f_001f09_000342, 0x1f10_0003b5_000313, 0x1f11_0003b5_000314, 0x1f12_001f10_000300,
  0x1f13_001f11_000300, 0x1f14_001f10_000301, 0x1f15_001f11_000301, 0x1f18_000395_000313,
  0x1f19_000395_000314, 0x1f1a_001f18_000300, 0x1f1b_001f19_000300, 0x1f1c_001f18_000301,
  0x1f1d_001f19_000301, 0x1f20_0003b7_000313, 0x1f21_0003b7_000314, 0x1f22_001f20_000300,
  0x1f23_001f21_000300, 0x1f24_001f20_000301, 0x1f25_001f21_000301, 0x1f26_001f20_000342,
  0x1f27_001f21_000342, 0x1f28_000397_000313, 0x1f29_000397_000314, 0x1f2a_001f28_000300,
  0x1f2b_001f29_000300, 0x1f2c_001f28_000301, 0x1f2d_001f29_000301, 0x1f2e_001f28_000342,
  0x1f2f_001f29_000342, 0x1f30_0003b9_000313, 0x1f31_0003b9_000314, 0x1f32_001f30_000300,
  0x1f33_001f31_000300, 0x1f34_001f30_000301, 0x1f35_001f31_000301, 0x1f36_001f30_000342,
  0x1f37_001f31_000342, 0x1f38_000399_000313, 0x1f39_000399_000314, 0x1f3a_001f38_000300,
  0x1f3b_001f39_000300, 0x1f3c_001f38_000301, 0x1f3d_001f39_000301, 0x1f3e_001f38_000342,
  0x1f3f_001f39_000342, 0x1f40_0003bf_000313, 0x1f41_0003bf_000314, 0x1f42_001f40_000300,
  0x1f43_001f41_000300, 0x1f44_001f40_000301, 0x1f45_001f41_000301, 0x1f48_00039f_000313,
  0x1f49_00039f_000314, 0x1f4a_001f48_000300, 0x1f4b_001f49_000300, 0x1f4c_001f48_000301,
  0x1f4d_001f49_000301, 0x1f50_0003c5_000313, 0x1f51_0003c5_000314, 0x1f52_001f50_000300,
  0x1f53_001f51_000300, 0x1f54_001f50_000301, 0x1f55_001f51_000301, 0x1f56_001f50_000342,
  0x1f57_001f51_000342, 0x1f59_0003a5_000314, 0x1f5b_001f59_000300, 0x1f5d_001f59_000301,
  0x1f5f_001f59_000342, 0x1f60_0003c9_000313, 0x1f61_0003c9_000314, 0x1f62_001f60_000300,
  0x1f63_001f61_000300, 0x1f64_001f60_000301, 0x1f65_001f61_000301, 0x1f66_001f60_000342,
  0x1f67_001f61_000342, 0x1f68_0003a9_000313, 0x1f69_0003a9_000314, 0x1f6a_001f68_000300,
  0x1f6b_001f69_000300, 0x1f6c_001f68_000301, 0x1f6d_001f69_000301, 0x1f6e_001f68_000342,
  0x1f6f_001f69_000342, 0x1f70_0003b1_000300, 0x1f72_0003b5_000300, 0x1f74_0003b7_000300,
  0x1f76_0003b9_000300, 0x1f78_0003bf_000300, 0x1f7a_0003c5_000300, 0x1f7c_0003c9_000300,
  0x1f80_001f00_000345, 0x1f81_001f01_000345, 0x1f82_001f02_000345, 0x1f83_001f03_000345,
  0x1f84_001f04_000345, 0x1f85_001f05_000345, 0x1f86_001f06_000345, 0x1f87_001f07_000345,
  0x1f88_001f08_000345, 0x1f89_001f09_000345, 0x1f8a_001f0a_000345, 0x1f8b_001f0b_000345,
  0x1f8c_001f0c_000345, 0x1f8d_001f0d_000345, 0x1f8e_001f0e_000345, 0x1f8f_001f0f_000345,
  0x1f90_001f20_000345, 0x1f91_001f21_000345, 0x1f92_001f22_000345, 0x1f93_001f23_000345,
  0x1f94_001f24_000345, 0x1f95_001f25_000345, 0x1f96_001f26_000345, 0x1f97_001f27_000345,
  0x1f98_001f28_000345, 0x1f99_001f29_000345, 0x1f9a_001f2a_000345, 0x1f9b_001f2b_000345,
  0x1f9c_001f2c_000345, 0x1f9d_001f2d_000345, 0x1f9e_001f2e_000345, 0x1f9f_001f2f_000345,
  0x1fa0_001f60_000345, 0x1fa1_001f61_000345, 0x1fa2_001f62_000345, 0x1fa3_001f63_000345,
  0x1fa4_001f64_000345, 0x1fa5_001f65_000345, 0x1fa6_001f66_000345, 0x1fa7_001f67_000345,
  0x1fa8_001f68_000345, 0x1fa9_001f69_000345, 0x1faa_001f6a_000345, 0x1fab_001f6b_000345,
  0x1fac_001f6c_000345, 0x1fad_001f6d_000345, 0x1fae_001f6e_000345, 0x1faf_001f6f_000345,
  0x1fb0_0003b1_000306, 0x1fb1_0003b1_000304, 0x1fb2_001f70_000345, 0x1fb3_0003b1_000345,
  0x1fb4_0003ac_000345, 0x1fb6_0003b1_000342, 0x1fb7_001fb6_000345, 0x1fb8_000391_000306,
  0x1fb9_000391_000304, 0x1fba_000391_000300, 0x1fbc_000391_000345, 0x1fc1_0000a8_000342,
  0x1fc2_001f74_000345, 0x1fc3_0003b7_000345, 0x1fc4_0003ae_000345, 0x1fc6_0003b7_000342,
  0x1fc7_001fc6_000345, 0x1fc8_000395_000300, 0x1fca_000397_000300, 0x1fcc_000397_000345,
  0x1fcd_001fbf_000300, 0x1fce_001fbf_000301, 0x1fcf_001fbf_000342, 0x1fd0_0003b9_000306,
  0x1fd1_0003b9_000304, 0x1fd2_0003ca_000300, 0x1fd6_0003b9_000342, 0x1fd7_0003ca_000342,
  0x1fd8_000399_000306, 0x1fd9_000399_000304, 0x1fda_000399_000300, 0x1fdd_001ffe_000300,
  0x1fde_001ffe_000301, 0x1fdf_001ffe_000342, 0x1fe0_0003c5_000306, 0x1fe1_0003c5_000304,
  0x1fe2_0003cb_000300, 0x1fe4_0003c1_000313, 0x1fe5_0003c1_000314, 0x1fe6_0003c5_000342,
  0x1fe7_0003cb_000342, 0x1fe8_0003a5_000306, 0x1fe9_0003a5_000304, 0x1fea_0003a5_000300,
  0x1fec_0003a1_000314, 0x1fed_0000a8_000300, 0x1ff2_001f7c_000345, 0x1ff3_0003c9_000345,
  0x1ff4_0003ce_000345, 0x1ff6_0003c9_000342, 0x1ff7_001ff6_000345, 0x1ff8_00039f_000300,
  0x1ffa_0003a9_000300, 0x1ffc_0003a9_000345, 0x219a_002190_000338, 0x219b_002192_000338,
  0x21ae_002194_000338, 0x21cd_0021d0_000338, 0x21ce_0021d4_000338, 0x21cf_0021d2_000338,
  0x2204_002203_000338, 0x2209_002208_000338, 0x220c_00220b_000338, 0x2224_002223_000338,
  0x2226_002225_000338, 0x2241_00223c_000338, 0x2244_002243_000338, 0x2247_002245_000338,
  0x2249_002248_000338, 0x2260_00003d_000338, 0x2262_002261_000338, 0x226d_00224d_000338,
  0x226e_00003c_000338, 0x226f_00003e_000338, 0x2270_002264_000338, 0x2271_002265_000338,
  0x2274_002272_000338, 0x2275_002273_000338, 0x2278_002276_000338, 0x2279_002277_000338,
  0x2280_00227a_000338, 0x2281_00227b_000338, 0x2284_002282_000338, 0x2285_002283_000338,
  0x2288_002286_000338, 0x2289_002287_000338, 0x22ac_0022a2_000338, 0x22ad_0022a8_000338,
  0x22ae_0022a9_000338, 0x22af_0022ab_000338, 0x22e0_00227c_000338, 0x22e1_00227d_000338,
  0x22e2_002291_000338, 0x22e3_002292_000338, 0x22ea_0022b2_000338, 0x22eb_0022b3_000338,
  0x22ec_0022b4_000338, 0x22ed_0022b5_000338, 0x304c_00304b_003099, 0x304e_00304d_003099,
  0x3050_00304f_003099, 0x3052_003051_003099, 0x3054_003053_003099, 0x3056_003055_003099,
  0x3058_003057_003099, 0x305a_003059_003099, 0x305c_00305b_003099, 0x305e_00305d_003099,
  0x3060_00305f_003099, 0x3062_003061_003099, 0x3065_003064_003099, 0x3067_003066_003099,
  0x3069_003068_003099, 0x3070_00306f_003099, 0x3071_00306f_00309a, 0x3073_003072_003099,
  0x3074_003072_00309a, 0x3076_003075_003099, 0x3077_003075_00309a, 0x3079_003078_003099,
  0x307a_003078_00309a, 0x307c_00307b_003099, 0x307d_00307b_00309a, 0x3094_003046_003099,
  0x309e_00309d_003099, 0x30ac_0030ab_003099, 0x30ae_0030ad_003099, 0x30b0_0030af_003099,
  0x30b2_0030b1_003099, 0x30b4_0030b3_003099, 0x30b6_0030b5_003099, 0x30b8_0030b7_003099,
  0x30ba_0030b9_003099, 0x30bc_0030bb_003099, 0x30be_0030bd_003099, 0x30c0_0030bf_003099,
  0x30c2_0030c1_003099, 0x30c5_0030c4_003099, 0x30c7_0030c6_003099, 0x30c9_0030c8_003099,
  0x30d0_0030cf_003099, 0x30d1_0030cf_00309a, 0x30d3_0030d2_003099, 0x30d4_0030d2_00309a,
  0x30d6_0030d5_003099, 0x30d7_0030d5_00309a, 0x30d9_0030d8_003099, 0x30da_0030d8_00309a,
  0x30dc_0030db_003099, 0x30dd_0030db_00309a, 0x30f4_0030a6_003099, 0x30f7_0030ef_003099,
  0x30f8_0030f0_003099, 0x30f9_0030f1_003099, 0x30fa_0030f2_003099, 0x30fe_0030fd_003099,
  0x1109a_011099_0110ba, 0x1109c_01109b_0110ba, 0x110ab_0110a5_0110ba, 0x1112e_011131_011127,
  0x1112f_011132_011127, 0x1134b_011347_01133e, 0x1134c_011347_011357, 0x114bb_0114b9_0114ba,
  0x114bc_0114b9_0114b0, 0x114be_0114b9_0114bd, 0x115ba_0115b8_0115af, 0x115bb_0115b9_0115af,
  0x11938_011935_011930]

/-- First and last code point of a range, then its combining class (not zero). -/
def combiningRows : String :=
  "300 314 e6;315 315 e8;316 319 dc;31a 31a e8;31b 31b d8;31c 320 dc;321 322 ca;323 326 dc;
327 328 ca;329 333 dc;334 338 1;339 33c dc;33d 344 e6;345 345 f0;346 346 e6;347 349 dc;
34a 34c e6;34d 34e dc;350 352 e6;353 356 dc;357 357 e6;358 358 e8;359 35a dc;35b 35b e6;
35c 35c e9;35d 35e ea;35f 35f e9;360 361 ea;362 362 e9;363 36f e6;483 487 e6;591 591 dc;
592 595 e6;596 596 dc;597 599 e6;59a 59a de;59b 59b dc;59c 5a1 e6;5a2 5a7 dc;5a8 5a9 e6;
5aa 5aa dc;5ab 5ac e6;5ad 5ad de;5ae 5ae e4;5af 5af e6;5b0 5b0 a;5b1 5b1 b;5b2 5b2 c;
5b3 5b3 d;5b4 5b4 e;5b5 5b5 f;5b6 5b6 10;5b7 5b7 11;5b8 5b8 12;5b9 5ba 13;5bb 5bb 14;
5bc 5bc 15;5bd 5bd 16;5bf 5bf 17;5c1 5c1 18;5c2 5c2 19;5c4 5c4 e6;5c5 5c5 dc;5c7 5c7 12;
610 617 e6;618 618 1e;619 619 1f;61a 61a 20;64b 64b 1b;64c 64c 1c;64d 64d 1d;64e 64e 1e;
64f 64f 1f;650 650 20;651 651 21;652 652 22;653 654 e6;655 656 dc;657 65b e6;65c 65c dc;
65d 65e e6;65f 65f dc;670 670 23;6d6 6dc e6;6df 6e2 e6;6e3 6e3 dc;6e4 6e4 e6;6e7 6e8 e6;
6ea 6ea dc;6eb 6ec e6;6ed 6ed dc;711 711 24;730 730 e6;731 731 dc;732 733 e6;734 734 dc;
735 736 e6;737 739 dc;73a 73a e6;73b 73c dc;73d 73d e6;73e 73e dc;73f 741 e6;742 742 dc;
743 743 e6;744 744 dc;745 745 e6;746 746 dc;747 747 e6;748 748 dc;749 74a e6;7eb 7f1 e6;
7f2 7f2 dc;7f3 7f3 e6;7fd 7fd dc;816 819 e6;81b 823 e6;825 827 e6;829 82d e6;859 85b dc;
898 898 e6;899 89b dc;89c 89f e6;8ca 8ce e6;8cf 8d3 dc;8d4 8e1 e6;8e3 8e3 dc;8e4 8e5 e6;
8e6 8e6 dc;8e7 8e8 e6;8e9 8e9 dc;8ea 8ec e6;8ed 8ef dc;8f0 8f0 1b;8f1 8f1 1c;8f2 8f2 1d;
8f3 8f5 e6;8f6 8f6 dc;8f7 8f8 e6;8f9 8fa dc;8fb 8ff e6;93c 93c 7;94d 94d 9;951 951 e6;
952 952 dc;953 954 e6;9bc 9bc 7;9cd 9cd 9;9fe 9fe e6;a3c a3c 7;a4d a4d 9;abc abc 7;
acd acd 9;b3c b3c 7;b4d b4d 9;bcd bcd 9;c3c c3c 7;c4d c4d 9;c55 c55 54;c56 c56 5b;cbc cbc 7;
ccd ccd 9;d3b d3c 9;d4d d4d 9;dca dca 9;e38 e39 67;e3a e3a 9;e48 e4b 6b;eb8 eb9 76;
eba eba 9;ec8 ecb 7a;f18 f19 dc;f35 f35 dc;f37 f37 dc;f39 f39 d8;f71 f71 81;f72 f72 82;
f74 f74 84;f7a f7d 82;f80 f80 82;f82 f83 e6;f84 f84 9;f86 f87 e6;fc6 fc6 dc;1037 1037 7;
1039 103a 9;108d 108d dc;135d 135f e6;1714 1715 9;1734 1734 9;17d2 17d2 9;17dd 17dd e6;
18a9 18a9 e4;1939 1939 de;193a 193a e6;193b 193b dc;1a17 1a17 e6;1a18 1a18 dc;1a60 1a60 9;
1a75 1a7c e6;1a7f 1a7f dc;1ab0 1ab4 e6;1ab5 1aba dc;1abb 1abc e6;1abd 1abd dc;1abf 1ac0 dc;
1ac1 1ac2 e6;1ac3 1ac4 dc;1ac5 1ac9 e6;1aca 1aca dc;1acb 1ace e6;1b34 1b34 7;1b44 1b44 9;
1b6b 1b6b e6;1b6c 1b6c dc;1b6d 1b73 e6;1baa 1bab 9;1be6 1be6 7;1bf2 1bf3 9;1c37 1c37 7;
1cd0 1cd2 e6;1cd4 1cd4 1;1cd5 1cd9 dc;1cda 1cdb e6;1cdc 1cdf dc;1ce0 1ce0 e6;1ce2 1ce8 1;
1ced 1ced dc;1cf4 1cf4 e6;1cf8 1cf9 e6;1dc0 1dc1 e6;1dc2 1dc2 dc;1dc3 1dc9 e6;1dca 1dca dc;
1dcb 1dcc e6;1dcd 1dcd ea;1dce 1dce d6;1dcf 1dcf dc;1dd0 1dd0 ca;1dd1 1df5 e6;1df6 1df6 e8;
1df7 1df8 e4;1df9 1df9 dc;1dfa 1dfa da;1dfb 1dfb e6;1dfc 1dfc e9;1dfd 1dfd dc;1dfe 1dfe e6;
1dff 1dff dc;20d0 20d1 e6;20d2 20d3 1;20d4 20d7 e6;20d8 20da 1;20db 20dc e6;20e1 20e1 e6;
20e5 20e6 1;20e7 20e7 e6;20e8 20e8 dc;20e9 20e9 e6;20ea 20eb 1;20ec 20ef dc;20f0 20f0 e6;
2cef 2cf1 e6;2d7f 2d7f 9;2de0 2dff e6;302a 302a da;302b 302b e4;302c 302c e8;302d 302d de;
302e 302f e0;3099 309a 8;a66f a66f e6;a674 a67d e6;a69e a69f e6;a6f0 a6f1 e6;a806 a806 9;
a82c a82c 9;a8c4 a8c4 9;a8e0 a8f1 e6;a92b a92d dc;a953 a953 9;a9b3 a9b3 7;a9c0 a9c0 9;
aab0 aab0 e6;aab2 aab3 e6;aab4 aab4 dc;aab7 aab8 e6;aabe aabf e6;aac1 aac1 e6;aaf6 aaf6 9;
abed abed 9;fb1e fb1e 1a;fe20 fe26 e6;fe27 fe2d dc;fe2e fe2f e6;101fd 101fd dc;
102e0 102e0 dc;10376 1037a e6;10a0d 10a0d dc;10a0f 10a0f e6;10a38 10a38 e6;10a39 10a39 1;
10a3a 10a3a dc;10a3f 10a3f 9;10ae5 10ae5 e6;10ae6 10ae6 dc;10d24 10d27 e6;10eab 10eac e6;
10f46 10f47 dc;10f48 10f4a e6;10f4b 10f4b dc;10f4c 10f4c e6;10f4d 10f50 dc;10f82 10f82 e6;
10f83 10f83 dc;10f84 10f84 e6;10f85 10f85 dc;11046 11046 9;11070 11070 9;1107f 1107f 9;
110b9 110b9 9;110ba 110ba 7;11100 11102 e6;11133 11134 9;11173 11173 7;111c0 111c0 9;
111ca 111ca 7;11235 11235 9;11236 11236 7;112e9 112e9 7;112ea 112ea 9;1133b 1133c 7;
1134d 1134d 9;11366 1136c e6;11370 11374 e6;11442 11442 9;11446 11446 7;1145e 1145e e6;
114c2 114c2 9;114c3 114c3 7;115bf 115bf 9;115c0 115c0 7;1163f 1163f 9;116b6 116b6 9;
116b7 116b7 7;1172b 1172b 9;11839 11839 9;1183a 1183a 7;1193d 1193e 9;11943 11943 7;
119e0 119e0 9;11a34 11a34 9;11a47 11a47 9;11a99 11a99 9;11c3f 11c3f 9;11d42 11d42 7;
11d44 11d45 9;11d97 11d97 9;16af0 16af4 1;16b30 16b36 e6;16ff0 16ff1 6;1bc9e 1bc9e 1;
1d165 1d166 d8;1d167 1d169 1;1d16d 1d16d e2;1d16e 1d172 d8;1d17b 1d182 dc;1d185 1d189 e6;
1d18a 1d18b dc;1d1aa 1d1ad e6;1d242 1d244 e6;1e000 1e006 e6;1e008 1e018 e6;1e01b 1e021 e6;
1e023 1e024 e6;1e026 1e02a e6;1e130 1e136 e6;1e2ae 1e2ae e6;1e2ec 1e2ef e6;1e8d0 1e8d6 dc;
1e944 1e949 e6;1e94a 1e94a 7;"

/-- The value of a hexadecimal digit; other characters count as zero. -/
def hexDigit (c : Char) : Nat :=
  if c.isDigit then c.toNat - '0'.toNat
  else if 'a' ≤ c && c ≤ 'f' then c.toNat - 'a'.toNat + 10
  else if 'A' ≤ c && c ≤ 'F' then c.toNat - 'A'.toNat + 10
  else 0

def hexNumber (cs : List Char) : Nat :=
  cs.foldl (fun n c => 16 * n + hexDigit c) 0

/-- The pieces of a text between the characters that satisfy `p`, empty pieces too. -/
def piecesBy (p : Char → Bool) : List Char → List (List Char)
  | [] => [[]]
  | c :: cs =>
    if p c then [] :: piecesBy p cs
    else match piecesBy p cs with
      | [] => [[c]]
      | w :: ws => (c :: w) :: ws

/-- Rows of hexadecimal numbers: blanks part the numbers, semicolons end the rows. -/
def hexRows (s : String) : List (List Nat) :=
  ((piecesBy (· == ';') (s.toList.filter (· ≠ '
'))).filter (· ≠ [])).map fun row =>
    (piecesBy (· == ' ') row).map hexNumber

/-- Puts the code points of a row of at most this many in front of others. -/
def unpack : Nat → Nat → List Nat → List Nat
  | 0, _, behind => behind
  | room + 1, row, behind =>
    if row = 0 then behind else unpack room (row / 0x1000000) (row % 0x1000000 :: behind)

/-- No row has more code points. -/
def longestRow : Nat := 5

def decompositions : List (List Nat) := decompositionRows.map fun row => unpack longestRow row []
def compositions : List (List Nat) := compositionRows.map fun row => unpack longestRow row []
def combiningRanges : List (List Nat) := hexRows combiningRows

end Bindery.Text
